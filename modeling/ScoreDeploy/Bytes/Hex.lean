import ScoreDeploy.Bytes.Basic
import ScoreDeploy.Text.Quoted
import ScoreDeploy.Text.Numeral

/-!
# Hexadecimal text of byte strings

`encode` writes two lowercase digits for each byte. `decode` accepts both cases; it looks at the
bytes of the text, so the position in an error counts bytes, and a byte that is no digit is shown as
the character with that code point.
-/

namespace ScoreDeploy.Hex

/-- Why a text is no hexadecimal form of a byte string. -/
inductive Error where
  /-- The number of bytes of the text is odd. -/
  | oddLength
  /-- The byte at this position is no hexadecimal digit. -/
  | badDigit (shown : Char) (position : Nat)
deriving DecidableEq

/-- The wording of an error. -/
def Error.message : Error → String
  | .oddLength => "Odd number of digits"
  | .badDigit shown position =>
    "Invalid character " ++ Text.quotedChar shown ++ " at position " ++ Numeral.decimal position

/-- The two digits of a byte. -/
def encodeByte (b : UInt8) : List Char :=
  [Nat.digitChar (b.toNat / 16), Nat.digitChar (b.toNat % 16)]

/-- The digits of a byte string. -/
def encodeChars (bs : Bytes) : List Char :=
  bs.flatMap encodeByte

/-- The hexadecimal form of a byte string. -/
def encode (bs : Bytes) : String :=
  String.ofList (encodeChars bs)

/-- The character whose code point is the byte. -/
def shownByte (b : UInt8) : Char :=
  Char.ofNat b.toNat

/-- The value of a hexadecimal digit given as a byte. -/
def nibble? (b : UInt8) : Option Nat :=
  Numeral.digit? 16 (shownByte b)

/-- Reads pairs of digits; `decoded` holds the bytes before `position`, the last one first. -/
def decodePairs (decoded : Bytes) (position : Nat) : Bytes → Except Error Bytes
  | [] => .ok decoded.reverse
  | [_] => .error .oddLength
  | high :: low :: rest =>
    match nibble? high, nibble? low with
    | some h, some l => decodePairs (UInt8.ofNat (h * 16 + l) :: decoded) (position + 2) rest
    | none, _ => .error (.badDigit (shownByte high) position)
    | some _, none => .error (.badDigit (shownByte low) (position + 1))

/-- The bytes whose hexadecimal form the characters are. The length is looked at first. -/
def decodeChars (cs : List Char) : Except Error Bytes :=
  let bytes := Bytes.utf8Chars cs
  if bytes.length % 2 = 1 then .error .oddLength
  else decodePairs [] 0 bytes

/-- The bytes whose hexadecimal form the text is. -/
def decode (text : String) : Except Error Bytes :=
  decodeChars text.toList

end ScoreDeploy.Hex
