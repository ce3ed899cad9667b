import ScoreDeploy.Rlp.Decode
import ScoreDeploy.Bytes.Hex
import ScoreDeploy.Json.Basic
import ScoreDeploy.Text.Blank

/-!
# Showing encoded objects

`ofText` decodes an object from hexadecimal text, and `toJson` shows it: a byte string as a
hexadecimal numeral of all its bytes, a list as an array.
-/

namespace ScoreDeploy.Rlp

mutual

/-- The object as a JSON value. -/
def toJson : Rlp → Json
  | .bytes payload => .string ("0x" ++ Hex.encode payload)
  | .list items => .array (itemsToJson [] items)

/-- The items as JSON values, behind those already `done`, the last one first. -/
def itemsToJson (done : List Json) : List Rlp → List Json
  | [] => done.reverse
  | item :: rest => itemsToJson (toJson item :: done) rest

end

/-- Why a text shows no object. -/
inductive TextError where
  /-- It is no hexadecimal text. -/
  | badHex (cause : Hex.Error)
  /-- The bytes are no encoding of one object. -/
  | badObject (cause : Error)
deriving DecidableEq

namespace TextError

/-- The wording of an error. -/
def message : TextError → String
  | .badHex _ => "input is not valid hex"
  | .badObject _ => "input is not a single RLP object"

/-- The wording of what lies behind an error. -/
def cause : TextError → String
  | .badHex e => e.message
  | .badObject e => e.message

end TextError

/-- The characters after the mark `0x`, if there is one. -/
def withoutMark : List Char → List Char
  | '0' :: 'x' :: rest => rest
  | cs => cs

/-- The object whose encoding the text gives in hexadecimal, blanks around it and one mark in front
allowed. -/
def ofText (text : String) : Except TextError Rlp := do
  let digits := withoutMark (Text.trimBlanks text.toList)
  let bytes ← (Hex.decodeChars digits).mapError .badHex
  (decode bytes).mapError .badObject

end ScoreDeploy.Rlp
