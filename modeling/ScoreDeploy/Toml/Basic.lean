/-!
# TOML documents

A value is a scalar, an array or a table. A document is written in pieces: a header opens a table, a
dotted key opens tables on its way, and each key may be given once. `Node` remembers how a table
came about, because a table that was opened by a header cannot be opened again by a header or a
dotted key, and one that was opened by dotted keys only by dotted keys; a table that is only named
on the way to another one may still be opened.
-/

namespace ScoreDeploy.Toml

/-- A value. -/
inductive Value where
  | string (value : String)
  | integer (value : Int)
  /-- A float, of which only the text is kept. -/
  | float (text : String)
  | boolean (value : Bool)
  /-- A date, a time, or both, of which only the text is kept. -/
  | datetime (text : String)
  | array (items : List Value)
  | table (members : List (String × Value))

/-- How a table came about. -/
inductive Origin where
  /-- On the way to another table. -/
  | passing
  /-- By a header. -/
  | header
  /-- By a dotted key. -/
  | dotted
deriving DecidableEq, Repr

/-- What a key stands for while a document is read. -/
inductive Node where
  /-- A value, to which nothing can be added. -/
  | value (value : Value)
  /-- A table. -/
  | table (origin : Origin) (members : List (String × Node))
  /-- An array of tables, the latest first; only that one can be added to. -/
  | tables (items : List (List (String × Node)))

namespace Node

/-- The keys of a table while a document is read. -/
abbrev Members := List (String × Node)

/-- Sets what a key stands for. -/
def set (key : String) (node : Node) : Members → Members
  | [] => [(key, node)]
  | (k, n) :: rest => if k = key then (key, node) :: rest else (k, n) :: set key node rest

/-- Changes the table at the end of a path, whose tables on the way are made if they are missing:
by dotted keys, which may not pass a table that was opened by a header, or on the way. -/
def update (byDots : Bool) (change : Origin → Members → Option Members) :
    List String → Origin → Members → Option Members
  | [], origin, members => change origin members
  | key :: path, _, members => do
    match members.lookup key with
    | none =>
      let origin := if byDots then .dotted else .passing
      let inner ← update byDots change path origin []
      return set key (.table origin inner) members
    | some (.value _) => none
    | some (.tables []) => none
    | some (.tables (latest :: earlier)) =>
      let inner ← update byDots change path .header latest
      return set key (.tables (inner :: earlier)) members
    | some (.table origin inner) =>
      if byDots ∧ origin = .header then none
      else
        let inner ← update byDots change path origin inner
        return set key (.table origin inner) members

/-- Gives a value to a key that has none yet. -/
def define (key : String) (value : Value) (members : Members) : Option Members :=
  match members.lookup key with
  | none => some (set key (.value value) members)
  | some _ => none

/-- Gives a value to a dotted key of a table. -/
def defineAt (path : List String) (key : String) (value : Value) (origin : Origin)
    (members : Members) : Option Members :=
  update true
    (fun reached inner =>
      if path.isEmpty ∨ reached = .dotted then define key value inner else none)
    path origin members

/-- Opens a table by a header. -/
def openTable (key : String) (members : Members) : Option Members :=
  match members.lookup key with
  | none => some (set key (.table .header []) members)
  | some (.table .passing inner) => some (set key (.table .header inner) members)
  | some _ => none

/-- Opens a further table of an array by a header. -/
def openItem (key : String) (members : Members) : Option Members :=
  match members.lookup key with
  | none => some (set key (.tables [[]]) members)
  | some (.tables items) => some (set key (.tables ([] :: items)) members)
  | some _ => none

mutual

/-- What a key stands for once the document has been read. -/
def toValue : Node → Value
  | .value v => v
  | .table _ members => .table (membersToValues members)
  | .tables items => .array (itemsToValues items).reverse

/-- What the keys of a table stand for. -/
def membersToValues : List (String × Node) → List (String × Value)
  | [] => []
  | (key, node) :: rest => (key, toValue node) :: membersToValues rest

/-- The tables of an array. -/
def itemsToValues : List (List (String × Node)) → List Value
  | [] => []
  | members :: rest => .table (membersToValues members) :: itemsToValues rest

end

end Node

end ScoreDeploy.Toml
