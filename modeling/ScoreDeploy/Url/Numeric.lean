import ScoreDeploy.Text.Numeral
import ScoreDeploy.Text.Parts

/-!
# Numeric addresses

A machine may be named by a number. A number of four bytes is written as up to four numbers between
points, of which the last one fills all the bytes that are left; each may be in base ten, eight or
sixteen. A number of sixteen bytes is written as eight pieces in hexadecimal between colons, where
one run of zeros may be left out. `ofText?` reads any such form, `text` writes the usual one.
-/

namespace ScoreDeploy.Url

/-- The digits of a number in one base. None at all mean zero. -/
def digits? (base : Nat) (cs : List Char) : Option Nat :=
  (cs.mapM (Numeral.digit? base)).map (·.foldl (fun n d => n * base + d) 0)

/-- The number that a part of a name denotes: a leading zero tells of base eight, a leading `0x` of
base sixteen. -/
def number? : List Char → Option Nat
  | [] => none
  | '0' :: c :: rest => if c = 'x' ∨ c = 'X' then digits? 16 rest else digits? 8 (c :: rest)
  | cs => digits? 10 cs

/-! ### Four bytes -/

/-- A number of four bytes that names a machine. -/
structure Ipv4 where
  number : UInt32
deriving DecidableEq, Repr

namespace Ipv4

/-- The parts of a name without an empty one at its end, which stands for nothing. -/
def namedParts (parts : List (List Char)) : List (List Char) :=
  if parts.getLast? = some [] then parts.dropLast else parts

/-- Whether a name with these parts has to be a number: its last part is one, or looks like one. -/
def isMeant (parts : List (List Char)) : Bool :=
  match (namedParts parts).getLast? with
  | none => false
  | some last => (number? last).isSome || (!last.isEmpty && last.all Char.isDigit)

/-- The number that the parts of a name denote together. -/
def ofParts? (parts : List (List Char)) : Option Ipv4 := do
  let numbers ← (namedParts parts).mapM number?
  let last ← numbers.getLast?
  let above := numbers.dropLast
  guard (above.length ≤ 3 && above.all (· ≤ 255) && last >>> (8 * (4 - above.length)) == 0)
  let high := above.zipIdx.map fun (n, i) => n <<< (8 * (3 - i))
  return ⟨UInt32.ofNat (high.foldl (· + ·) last)⟩

/-- The byte at a place, counted from the last one. -/
def byte (address : Ipv4) (place : Nat) : Nat :=
  address.number.toNat >>> (8 * place) % 256

/-- The four bytes between points. -/
def text (address : Ipv4) : String :=
  String.intercalate "." ([3, 2, 1, 0].map fun place => Numeral.decimal (address.byte place))

end Ipv4

/-! ### Sixteen bytes -/

/-- A number of sixteen bytes that names a machine, as eight pieces. -/
structure Ipv6 where
  pieces : Vector UInt16 8
deriving DecidableEq

namespace Ipv6

/-- The piece that up to four digits denote. -/
def piece? (cs : List Char) : Option UInt16 :=
  if cs.isEmpty || 4 < cs.length then none else (digits? 16 cs).map UInt16.ofNat

/-- The byte that up to three digits denote. Zeros in front are not allowed. -/
def byte? (cs : List Char) : Option Nat := do
  guard (!cs.isEmpty && cs.length ≤ 3 && (cs.length == 1 || cs.head? != some '0'))
  (digits? 10 cs).filter (· ≤ 255)

/-- The two pieces that four bytes between points denote. -/
def pointed? (cs : List Char) : Option (List UInt16) := do
  match ← (Text.parts (· == '.') cs).mapM byte? with
  | [a, b, c, d] => return [UInt16.ofNat (a * 256 + b), UInt16.ofNat (c * 256 + d)]
  | _ => none

/-- The pieces between colons. At the end of the address the last one may be four bytes between
points. -/
def pieces? (isEnd : Bool) (cs : List Char) : Option (List UInt16) := do
  if cs.isEmpty then return []
  let parts := Text.parts (· == ':') cs
  let before ← parts.dropLast.mapM piece?
  let last ← parts.getLast?
  match piece? last with
  | some piece => return before ++ [piece]
  | none => if isEnd then return before ++ (← pointed? last) else none

/-- What stands before and after the first two colons in a row, if there are any. -/
def cutAtGap : List Char → Option (List Char × List Char)
  | ':' :: ':' :: rest => some ([], rest)
  | c :: rest => (cutAtGap rest).map fun (front, back) => (c :: front, back)
  | [] => none

/-- The address with these pieces, if they are eight. -/
def ofPieces? (pieces : List UInt16) : Option Ipv6 :=
  if h : pieces.toArray.size = 8 then some ⟨⟨pieces.toArray, h⟩⟩ else none

/-- The address that a text denotes. Two colons in a row stand for at least one piece. -/
def ofText? (cs : List Char) : Option Ipv6 := do
  match cutAtGap cs with
  | none => ofPieces? (← pieces? true cs)
  | some (front, back) =>
    let front ← pieces? false front
    let back ← pieces? true back
    guard (front.length + back.length ≤ 7)
    ofPieces? (front ++ List.replicate (8 - (front.length + back.length)) 0 ++ back)

/-- How many zeros start at each place. -/
def zerosAt (pieces : List UInt16) : List Nat :=
  (List.range pieces.length).map fun i => ((pieces.drop i).takeWhile (· == 0)).length

/-- Pieces between colons. -/
def piecesText (pieces : List UInt16) : String :=
  String.intercalate ":" (pieces.map fun piece => Numeral.hex piece.toNat)

/-- The address as a text. The first of the longest runs of zeros is left out, if it has more than
one. -/
def text (address : Ipv6) : String :=
  let pieces := address.pieces.toList
  let zeros := zerosAt pieces
  let longest := zeros.foldl max 0
  if longest < 2 then piecesText pieces
  else
    let start := zeros.findIdx (· == longest)
    piecesText (pieces.take start) ++ "::" ++ piecesText (pieces.drop (start + longest))

end Ipv6

example : (Ipv4.ofParts? (Text.parts (· == '.') "0x7F.1".toList)).map Ipv4.text =
    some "127.0.0.1" := by decide +kernel

example : (Ipv6.ofText? "1:0::2.3.4.5".toList).map Ipv6.text = some "1::203:405" := by
  decide +kernel

end ScoreDeploy.Url
