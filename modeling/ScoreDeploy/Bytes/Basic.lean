/-!
# Byte strings

Byte strings are lists of bytes throughout the library: contract code, signatures, digests and
files alike. This module holds what several parts share: the UTF-8 form of a text, and the passage
between numbers and bytes in either order of significance.
-/

namespace ScoreDeploy

/-- A string of bytes. -/
abbrev Bytes := List UInt8

namespace Bytes

/-- The UTF-8 form of a list of characters. -/
def utf8Chars (cs : List Char) : Bytes :=
  cs.flatMap String.utf8EncodeChar

/-- The UTF-8 form of a text. -/
def ofText (s : String) : Bytes :=
  s.toUTF8.data.toList

/-- The text whose UTF-8 form the bytes are, if there is one. -/
def toText? (bs : Bytes) : Option String :=
  String.fromUTF8? ⟨bs.toArray⟩

/-- The number whose digits in base 256 are the bytes, the most significant first. -/
def toNatBE (bs : Bytes) : Nat :=
  bs.foldl (fun n b => n * 256 + b.toNat) 0

/-- The number whose digits in base 256 are the bytes, the least significant first. -/
def toNatLE (bs : Bytes) : Nat :=
  bs.foldr (fun b n => b.toNat + n * 256) 0

/-- The lowest `width` base-256 digits of a number, the least significant first. -/
def ofNatLE (width n : Nat) : Bytes :=
  match width with
  | 0 => []
  | width + 1 => UInt8.ofNat n :: ofNatLE width (n / 256)

/-- The lowest `width` base-256 digits of a number, the most significant first. -/
def ofNatBE (width n : Nat) : Bytes :=
  (ofNatLE width n).reverse

/-- Bytewise exclusive or, as long as the shorter operand. -/
def xor (a b : Bytes) : Bytes :=
  List.zipWith (· ^^^ ·) a b

@[simp]
theorem length_ofNatLE (width n : Nat) : (ofNatLE width n).length = width := by
  induction width generalizing n with
  | zero => rfl
  | succ width ih => simp [ofNatLE, ih]

@[simp]
theorem length_ofNatBE (width n : Nat) : (ofNatBE width n).length = width := by
  simp [ofNatBE]

end Bytes

end ScoreDeploy
