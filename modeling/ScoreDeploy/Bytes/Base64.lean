import ScoreDeploy.Bytes.Basic

/-!
# Base 64

Three bytes become four characters of a 64-character alphabet; a last group of one or two bytes is
filled up with `=`. `decode?` reads exactly what `encode` writes.
-/

namespace ScoreDeploy.Base64

/-- The digits of base 64 in increasing order. -/
def alphabet : List Char :=
  "ABCDEFGHIJKLMNOPQRSTUVWXYZabcdefghijklmnopqrstuvwxyz0123456789+/".toList

/-- The digit of a value below 64. -/
def digit (n : Nat) : Char :=
  alphabet.getD n '='

/-- The value of a digit. -/
def value? (c : Char) : Option Nat :=
  alphabet.idxOf? c

/-- The characters of a byte string, group by group. -/
def encodeChars : Bytes → List Char
  | a :: b :: c :: rest =>
    let n := a.toNat * 65536 + b.toNat * 256 + c.toNat
    digit (n / 262144) :: digit (n / 4096 % 64) :: digit (n / 64 % 64) :: digit (n % 64) ::
      encodeChars rest
  | [a, b] =>
    let n := a.toNat * 1024 + b.toNat * 4
    [digit (n / 4096), digit (n / 64 % 64), digit (n % 64), '=']
  | [a] =>
    let n := a.toNat * 16
    [digit (n / 64), digit (n % 64), '=', '=']
  | [] => []

/-- The base 64 form of a byte string. -/
def encode (bs : Bytes) : String :=
  String.ofList (encodeChars bs)

/-- Reads groups of four characters; only the last one may be filled up. -/
def decodeChars? : List Char → Option Bytes
  | [] => some []
  | [p, q, '=', '='] => do
    let n := (← value? p) * 64 + (← value? q)
    guard (n % 16 = 0)
    return [UInt8.ofNat (n / 16)]
  | [p, q, r, '='] => do
    let n := (← value? p) * 4096 + (← value? q) * 64 + (← value? r)
    guard (n % 4 = 0)
    return [UInt8.ofNat (n / 1024), UInt8.ofNat (n / 4)]
  | p :: q :: r :: s :: rest => do
    let n := (← value? p) * 262144 + (← value? q) * 4096 + (← value? r) * 64 + (← value? s)
    return UInt8.ofNat (n / 65536) :: UInt8.ofNat (n / 256) :: UInt8.ofNat n ::
      (← decodeChars? rest)
  | _ => none

/-- The bytes whose base 64 form the text is. -/
def decode? (text : String) : Option Bytes :=
  decodeChars? text.toList

end ScoreDeploy.Base64
