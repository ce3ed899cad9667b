import ScoreDeploy.Text.Numeral
import ScoreDeploy.Text.Quoted
import ScoreDeploy.Quantity

/-!
# Hexadecimal numerals with a prefix

On the wire and in call files an integer is written `0x` followed by hexadecimal digits. `write`
gives the shortest such text in lowercase; `read` and `readWord?` accept any number of leading
zeros, both cases, and a plus sign after the mark, and refuse a number that reaches their limit.
-/

namespace ScoreDeploy.HexNumeral

/-- Why a text is no hexadecimal numeral. The text at fault is kept for the message. -/
inductive Error where
  /-- The mark `0x` is missing. -/
  | unmarked (text : String)
  /-- What follows the mark is no numeral below the limit. -/
  | malformed (text : String) (fault : Numeral.Fault)
deriving DecidableEq

/-- The wording of an error. -/
def Error.message : Error → String
  | .unmarked text => "expected 0x-prefixed hex integer, got " ++ Text.quoted text
  | .malformed text fault =>
    "invalid hex integer " ++ Text.quoted text ++ ": " ++ fault.message

/-- The characters after the mark `0x`. -/
def afterMark? : List Char → Option (List Char)
  | '0' :: 'x' :: cs => some cs
  | _ => none

/-- The number below `limit` that the text denotes. -/
def readBelow (limit : Nat) (text : String) : Except Error Nat :=
  match afterMark? text.toList with
  | none => .error (.unmarked text)
  | some cs => (Numeral.read 16 limit cs).mapError (.malformed text)

/-- The quantity that the text denotes. -/
def read (text : String) : Except Error Quantity :=
  match readBelow Quantity.limit text with
  | .error e => .error e
  -- What was read lies below the limit, so there is always such a quantity.
  | .ok n => (Quantity.ofNat? n).elim (.error (.malformed text .tooLarge)) .ok

/-- The 64-bit number that the text denotes. -/
def readWord? (text : String) : Option UInt64 :=
  (readBelow UInt64.size text).toOption.map UInt64.ofNat

/-- The shortest text for a number. -/
def write (n : Nat) : String :=
  "0x" ++ Numeral.hex n

end ScoreDeploy.HexNumeral
