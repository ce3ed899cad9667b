import ScoreDeploy.Transaction.Parameters
import ScoreDeploy.Crypto.Keccak

/-!
# The canonical form of a transaction

What is signed is a digest of a text in which keys and values follow one another with points
between them, objects stand in braces and arrays in brackets, and a null is a backslash and a zero.
The keys of each object come in increasing order. The characters that give this text its structure
are escaped by a backslash wherever they occur in a value. The signature and the hash of the
transaction itself are left out at the top.
-/

namespace ScoreDeploy.Canonical

/-- The start of every canonical form. -/
def start : String := "icx_sendTransaction"

/-- The members that are left out at the top. -/
def omitted : List String := ["signature", "txHash"]

/-- The characters with a meaning of their own. -/
def isSpecial (c : Char) : Bool :=
  c == '\\' || c == '.' || c == '\x7b' || c == '\x7d' || c == '[' || c == ']'

/-- Appends characters with their escapes. -/
def pushEscaped (out : String) : List Char → String
  | [] => out
  | c :: rest => pushEscaped ((if isSpecial c then out.push '\\' else out).push c) rest

/-- Appends a point unless nothing stands before. -/
def pushPoint (out : String) (first : Bool) : String :=
  if first then out else out.push '.'

mutual

/-- Appends a value. -/
def pushValue (out : String) : Json → String
  | .null => out ++ "\\0"
  | .bool b => pushEscaped out (Json.compact (.bool b)).toList
  | .number n => pushEscaped out n.text.toList
  | .string s => pushEscaped out s.toList
  | .array items => (pushItems (out.push '[') true items).push ']'
  | .object members => (pushMembers (out.push '\x7b') true members).push '\x7d'

/-- Appends items with points between them. -/
def pushItems (out : String) (first : Bool) : List Json → String
  | [] => out
  | item :: rest => pushItems (pushValue (pushPoint out first) item) false rest

/-- Appends keys and values with points between them. -/
def pushMembers (out : String) (first : Bool) : List (String × Json) → String
  | [] => out
  | (key, value) :: rest =>
    pushMembers (pushValue ((pushPoint out first ++ key).push '.') value) false rest

end

/-- The canonical form of a transaction. -/
def text (params : Params) : String :=
  pushMembers start false (Json.Members.without omitted (Json.canonicalMembers [] params))

/-- The digest that is signed. -/
def digest (params : Params) : Bytes :=
  Keccak.sha3 (Bytes.ofText (text params))

end ScoreDeploy.Canonical
