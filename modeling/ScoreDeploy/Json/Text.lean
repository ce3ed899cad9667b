import ScoreDeploy.Json.Basic
import ScoreDeploy.Binary64.Shortest
import ScoreDeploy.Text.Numeral

/-!
# Writing JSON

`compact` writes a value without any blank; `pretty` puts every item and every member on a line of
its own, two blanks deeper than the brackets around it. Both write members in the order in which
they stand. A text is escaped only where the format asks for it, so all characters from the space on
stand for themselves but the quote and the backslash.
-/

namespace ScoreDeploy.Json

/-- The text of an integer. -/
def integerText (n : Int) : String :=
  if n < 0 then "-" ++ Numeral.decimal n.natAbs else Numeral.decimal n.natAbs

/-- The text of a number. -/
def Number.text : Number → String
  | .integer n => integerText n.toInt
  | .float x => x.text

/-- What stands for a character between quotes. -/
def escapedChar (c : Char) : List Char :=
  if c = '"' ∨ c = '\\' then ['\\', c]
  else if c = '\x08' then ['\\', 'b']
  else if c = '\x0c' then ['\\', 'f']
  else if c = '\n' then ['\\', 'n']
  else if c = '\r' then ['\\', 'r']
  else if c = '\t' then ['\\', 't']
  else if c.toNat < 0x20 then
    ['\\', 'u', '0', '0', Nat.digitChar (c.toNat / 16), Nat.digitChar (c.toNat % 16)]
  else [c]

/-- Appends characters with their escapes. -/
def pushEscaped (out : String) : List Char → String
  | [] => out
  | c :: rest => pushEscaped ((escapedChar c).foldl String.push out) rest

/-- Appends a text between quotes. -/
def pushString (out : String) (s : String) : String :=
  (pushEscaped (out.push '"') s.toList).push '"'

mutual

/-- Appends a value without blanks. -/
def pushCompact (out : String) : Json → String
  | .null => out ++ "null"
  | .bool true => out ++ "true"
  | .bool false => out ++ "false"
  | .number n => out ++ n.text
  | .string s => pushString out s
  | .array items => (pushCompactItems (out.push '[') true items).push ']'
  | .object members => (pushCompactMembers (out.push '\x7b') true members).push '\x7d'

/-- Appends items with commas between them; `first` tells that none stands before them. -/
def pushCompactItems (out : String) (first : Bool) : List Json → String
  | [] => out
  | item :: rest =>
    pushCompactItems (pushCompact (if first then out else out.push ',') item) false rest

/-- Appends members with commas between them. -/
def pushCompactMembers (out : String) (first : Bool) : List (String × Json) → String
  | [] => out
  | (key, value) :: rest =>
    let out := pushString (if first then out else out.push ',') key
    pushCompactMembers (pushCompact (out.push ':') value) false rest

end

/-- The text of a value without blanks. -/
def compact (value : Json) : String :=
  pushCompact "" value

/-- Appends a line end and the blanks of that many levels. -/
def pushLine (out : String) (level : Nat) : String :=
  (out.push '\n') ++ String.ofList (List.replicate (2 * level) ' ')

mutual

/-- Appends a value whose brackets stand at that level. -/
def pushPretty (out : String) (level : Nat) : Json → String
  | .array [] => out ++ "[]"
  | .array items =>
    (pushLine (pushPrettyItems (out.push '[') (level + 1) true items) level).push ']'
  | .object [] => out ++ "\x7b\x7d"
  | .object members =>
    (pushLine (pushPrettyMembers (out.push '\x7b') (level + 1) true members) level).push '\x7d'
  | value => pushCompact out value

/-- Appends items, each on its line. -/
def pushPrettyItems (out : String) (level : Nat) (first : Bool) : List Json → String
  | [] => out
  | item :: rest =>
    let out := pushLine (if first then out else out.push ',') level
    pushPrettyItems (pushPretty out level item) level false rest

/-- Appends members, each on its line. -/
def pushPrettyMembers (out : String) (level : Nat) (first : Bool) :
    List (String × Json) → String
  | [] => out
  | (key, value) :: rest =>
    let out := pushString (pushLine (if first then out else out.push ',') level) key
    pushPrettyMembers (pushPretty (out ++ ": ") level value) level false rest

end

/-- The text of a value on lines of their own. -/
def pretty (value : Json) : String :=
  pushPretty "" 0 value

end ScoreDeploy.Json
