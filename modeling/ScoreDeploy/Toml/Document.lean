import ScoreDeploy.Toml.Scalar

/-!
# Reading TOML

`read?` reads a whole document: lines that are blank or comments, headers, and keys with their
values. Arrays may extend over several lines, tables in braces may not. Arrays and tables in braces
are nested at most `maxDepth` deep.
-/

namespace ScoreDeploy.Toml

/-- How deep arrays and tables in braces may lie inside one another. -/
def maxDepth : Nat := 79

/-- Passes over the rest of a comment. -/
def skipComment (cs : List Char) : List Char :=
  cs.dropWhile isPlain

/-- Passes over blanks, comments and ends of lines between the items of an array. The first argument
bounds the number of lines. -/
def skipLines : Nat → List Char → List Char
  | 0, cs => cs
  | fuel + 1, cs =>
    match skipBlanks cs with
    | '#' :: rest =>
      match newline? (skipComment rest) with
      | some rest => skipLines fuel rest
      | none => '#' :: rest
    | cs =>
      match newline? cs with
      | some rest => skipLines fuel rest
      | none => cs

/-- Passes over whole lines between the items of an array. -/
def skipToItem (cs : List Char) : List Char :=
  skipLines (cs.length + 1) cs

/-- Reads the items of an array up to the closing bracket. The first argument bounds their
number. -/
def arrayItems (readValue : List Char → Option (Value × List Char)) :
    Nat → List Value → List Char → Option (Value × List Char)
  | 0, _, _ => none
  | fuel + 1, done, cs =>
    match skipToItem cs with
    | ']' :: rest => some (.array done.reverse, rest)
    | cs => do
      let (item, rest) ← readValue cs
      match skipToItem rest with
      | ',' :: rest => arrayItems readValue fuel (item :: done) rest
      | ']' :: rest => some (.array (item :: done).reverse, rest)
      | _ => none

/-- A key without its last part, and that part. -/
def splitLast? : List String → Option (List String × String)
  | [] => none
  | [name] => some ([], name)
  | name :: rest => (splitLast? rest).map fun (path, last) => (name :: path, last)

/-- Reads a key and its value. -/
def keyValue (readValue : List Char → Option (Value × List Char)) (cs : List Char) :
    Option (List String × String × Value × List Char) := do
  let (names, rest) ← key cs
  let (path, name) ← splitLast? names
  match rest with
  | '=' :: rest =>
    let (value, rest) ← readValue (skipBlanks rest)
    return (path, name, value, skipBlanks rest)
  | _ => none

/-- Reads the members of a table in braces up to the closing one. The first argument bounds their
number. -/
def inlineMembers (readValue : List Char → Option (Value × List Char)) :
    Nat → Node.Members → List Char → Option (Value × List Char)
  | 0, _, _ => none
  | fuel + 1, members, cs => do
    let (path, name, value, rest) ← keyValue readValue cs
    let members ← Node.defineAt path name value .header members
    match rest with
    | ',' :: rest => inlineMembers readValue fuel members rest
    | '\x7d' :: rest => some (.table (Node.membersToValues members), rest)
    | _ => none

/-- Reads a value that has no parts. -/
def plainValue (cs : List Char) : Option (Value × List Char) := do
  match cs with
  | '"' :: _ => (text cs).map fun (s, rest) => (.string s, rest)
  | '\'' :: _ => (text cs).map fun (s, rest) => (.string s, rest)
  | _ =>
    let (name, rest) := word cs
    return (← wordValue? name, rest)

/-- Reads a value whose parts are nested at most `depth` deep. -/
def value : Nat → List Char → Option (Value × List Char)
  | 0, cs => plainValue cs
  | depth + 1, cs =>
    match cs with
    | '[' :: rest => arrayItems (fun cs => value depth cs) (rest.length + 1) [] rest
    | '\x7b' :: rest =>
      match skipBlanks rest with
      | '\x7d' :: rest => some (.table [], rest)
      | rest => inlineMembers (fun cs => value depth cs) (rest.length + 1) [] rest
    | cs => plainValue cs

/-- Passes over the end of a line, before which a comment may stand, or the end of the text. -/
def lineEnd (cs : List Char) : Option (List Char) :=
  let rest :=
    match skipBlanks cs with
    | '#' :: rest => skipComment rest
    | rest => rest
  match rest with
  | [] => some []
  | rest => newline? rest

/-- A document of which some lines were read. -/
structure Draft where
  /-- The keys at the top. -/
  root : Node.Members
  /-- The path of the table that the last header opened. -/
  current : List String

namespace Draft

/-- Gives a value to a dotted key of the table that is open. -/
def define (draft : Draft) (path : List String) (name : String) (value : Value) :
    Option Draft := do
  let root ← Node.update false (fun _ members => Node.defineAt path name value .header members)
    draft.current .header draft.root
  return { draft with root := root }

/-- Opens the table at a path in the given manner. -/
def openWith (draft : Draft) (path : List String)
    (openKey : String → Node.Members → Option Node.Members) : Option Draft := do
  let (above, name) ← splitLast? path
  let root ← Node.update false (fun _ members => openKey name members) above .header draft.root
  return ⟨root, path⟩

end Draft

/-- Reads one line that is not blank. -/
def line (draft : Draft) (cs : List Char) : Option (Draft × List Char) := do
  match cs with
  | '[' :: '[' :: rest =>
    let (path, rest) ← key rest
    match rest with
    | ']' :: ']' :: rest => return (← draft.openWith path Node.openItem, rest)
    | _ => none
  | '[' :: rest =>
    let (path, rest) ← key rest
    match rest with
    | ']' :: rest => return (← draft.openWith path Node.openTable, rest)
    | _ => none
  | _ =>
    let (path, name, value, rest) ← keyValue (value maxDepth) cs
    return (← draft.define path name value, rest)

/-- Reads lines up to the end of the text. The first argument bounds their number. -/
def lines : Nat → Draft → List Char → Option Draft
  | 0, _, _ => none
  | fuel + 1, draft, cs =>
    match skipBlanks cs with
    | [] => some draft
    | '#' :: rest => do lines fuel draft (← lineEnd ('#' :: rest))
    | cs =>
      match newline? cs with
      | some rest => lines fuel draft rest
      | none => do
        let (draft, rest) ← line draft cs
        lines fuel draft (← lineEnd rest)

/-- The text without a byte order mark in front. -/
def withoutMark : List Char → List Char
  | '\ufeff' :: rest => rest
  | cs => cs

/-- The table that a document denotes, if it is one. -/
def read? (document : String) : Option (List (String × Value)) := do
  let cs := withoutMark document.toList
  let draft ← lines (cs.length + 1) ⟨[], []⟩ cs
  return Node.membersToValues draft.root

end ScoreDeploy.Toml
