import ScoreDeploy.Binary64.Basic

/-!
# JSON values

A number is an integer of at most 64 bits, signed or unsigned, or else a binary floating point
number. The members of an object are a list of pairs. In a canonical value the keys of each object
increase, so that a key occurs once; `insert` keeps that order, and `canonical` brings a value with
repeated or unordered keys into it, the last of equal keys winning.
-/

namespace ScoreDeploy

namespace Json

/-- A whole number between `-2 ^ 63` and `2 ^ 64`, the lower bound included. -/
structure Integer where
  /-- The number. -/
  toInt : Int
  /-- The number keeps the bounds. -/
  bounds : -0x8000000000000000 ≤ toInt ∧ toInt < 0x10000000000000000 := by decide
deriving DecidableEq

/-- The integer of a number within the bounds. -/
def Integer.ofInt? (n : Int) : Option Integer :=
  if h : -0x8000000000000000 ≤ n ∧ n < 0x10000000000000000 then some ⟨n, h⟩ else none

/-- A number. -/
inductive Number where
  | integer (value : Integer)
  | float (value : Binary64)
deriving DecidableEq

end Json

/-- A JSON value. -/
inductive Json where
  | null
  | bool (value : Bool)
  | number (value : Json.Number)
  | string (value : String)
  | array (items : List Json)
  | object (members : List (String × Json))

namespace Json

/-- A number of 64 bits without a sign. -/
def ofWord (n : UInt64) : Json :=
  .number (.integer ⟨n.toNat, by have := n.toNat_lt; omega⟩)

/-- The members of an object. -/
abbrev Members := List (String × Json)

namespace Members

/-- The value of a key. -/
def get? (members : Members) (key : String) : Option Json :=
  members.lookup key

/-- The value of a key that occurs exactly once. -/
def single? (members : Members) (key : String) : Option Json :=
  match members.filter (fun m => m.1 == key) with
  | [m] => some m.2
  | _ => none

/-- Sets the value of a key and keeps the keys in increasing order. -/
def insert (key : String) (value : Json) : Members → Members
  | [] => [(key, value)]
  | (k, v) :: rest =>
    if key < k then (key, value) :: (k, v) :: rest
    else if key = k then (key, value) :: rest
    else (k, v) :: insert key value rest

/-- The members inserted one after another. -/
def ofList (pairs : List (String × Json)) : Members :=
  pairs.foldl (fun members m => insert m.1 m.2 members) []

/-- The members without those of the given keys. -/
def without (keys : List String) (members : Members) : Members :=
  members.filter fun m => !keys.contains m.1

end Members

mutual

/-- The value with the members of all objects in increasing order of their keys, each key once. -/
def canonical : Json → Json
  | .array items => .array (canonicalItems [] items)
  | .object members => .object (canonicalMembers [] members)
  | value => value

/-- The canonical forms of the items, behind those already `done`, the last one first. -/
def canonicalItems (done : List Json) : List Json → List Json
  | [] => done.reverse
  | item :: rest => canonicalItems (canonical item :: done) rest

/-- Inserts the canonical forms of the members. -/
def canonicalMembers (done : Members) : Members → Members
  | [] => done
  | (key, value) :: rest => canonicalMembers (Members.insert key (canonical value) done) rest

end

/-- The text that a value is, if it is one. -/
def string? : Json → Option String
  | .string s => some s
  | _ => none

theorem string?_eq_some_iff {value : Json} {s : String} :
    value.string? = some s ↔ value = .string s := by
  cases value <;> simp [string?]

/-- The member of an object with that key; no other value has members. -/
def member? (value : Json) (key : String) : Option Json :=
  match value with
  | .object members => Members.get? members key
  | _ => none

end Json

end ScoreDeploy
