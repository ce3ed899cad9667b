import ScoreDeploy.Binary64.Basic

/-!
# Shortest decimal text

A binary number is written with the fewest significant digits that read back as the same number,
and with the nearest of those that have so few. Numbers from `1e-5` up to `1e16` are written
positionally, always with a point; smaller and larger ones with an exponent.
-/

namespace ScoreDeploy.Binary64

/-- Significant digits without zeros at the end, and the place of the point: the number is
`0.digits * 10 ^ point`. -/
structure Decimal where
  digits : List Char
  point : Int

/-- Whether `significand * 10 ^ scale` rounds to the count. -/
def readsBack (count significand : Nat) (scale : Int) : Bool :=
  if 0 ≤ scale then roundCount (significand * ten scale.toNat * one) 1 == count
  else roundCount (significand * one) (ten (-scale).toNat) == count

/-- The least number of places after which a count below one has a digit before the point. -/
def leadingPlaces (count : Nat) : Nat → Nat → Nat
  | 0, places => places
  | fuel + 1, places =>
    if one ≤ count * ten places then places else leadingPlaces count fuel (places + 1)

/-- The place of the point of a positive count: the number lies between a tenth of `10 ^ point` and
`10 ^ point`. -/
def pointOf (count : Nat) : Int :=
  if one ≤ count then (Nat.toDigits 10 (count / one)).length
  else 1 - (leadingPlaces count 400 1 : Int)

/-- The nearest number with so many digits that reads back, if there is one. -/
def candidate? (count : Nat) (point : Int) (width : Nat) : Option (Nat × Int) :=
  let scale : Int := point - width
  let num := if 0 ≤ scale then count else count * ten (-scale).toNat
  let den := if 0 ≤ scale then one * ten scale.toNat else one
  let low := num / den
  let rest := num % den
  let lowHits := readsBack count low scale
  let highHits := readsBack count (low + 1) scale
  if lowHits && (!highHits || 2 * rest < den || (2 * rest == den && low % 2 == 0)) then
    some (low, scale)
  else if highHits then some (low + 1, scale)
  else none

/-- The first candidate among the given numbers of digits. -/
def firstCandidate (count : Nat) (point : Int) : Nat → Nat → Nat × Int
  | 0, width => (count / one, (width : Int) - width)
  | tries + 1, width =>
    match candidate? count point width with
    | some found => found
    | none => firstCandidate count point tries (width + 1)

/-- The shortest decimal that reads back as a positive count. -/
def shortest (count : Nat) : Decimal :=
  let (significand, scale) := firstCandidate count (pointOf count) 17 1
  let all := Nat.toDigits 10 significand
  { digits := (all.reverse.dropWhile (· == '0')).reverse
    point := scale + all.length }

/-- Positional text, with a zero on either side of the point where there is no digit. -/
def positional (d : Decimal) : List Char :=
  if d.point ≤ 0 then
    '0' :: '.' :: List.replicate (-d.point).toNat '0' ++ d.digits
  else
    let before := d.point.toNat
    if d.digits.length ≤ before then
      d.digits ++ List.replicate (before - d.digits.length) '0' ++ ['.', '0']
    else d.digits.take before ++ '.' :: d.digits.drop before

/-- Text with an exponent, and with a point if there is more than one digit. -/
def scientific (d : Decimal) : List Char :=
  let exponent := d.point - 1
  let mantissa :=
    match d.digits with
    | first :: second :: rest => first :: '.' :: second :: rest
    | digits => digits
  mantissa ++ 'e' :: (if exponent < 0 then '-' else '+') :: Nat.toDigits 10 exponent.natAbs

/-- The text of a number. -/
def text (x : Binary64) : String :=
  let sign := if x.negative then ['-'] else []
  let body :=
    if x.units = 0 then ['0', '.', '0']
    else
      let d := shortest x.units
      if -5 < d.point ∧ d.point ≤ 16 then positional d else scientific d
  String.ofList (sign ++ body)

end ScoreDeploy.Binary64
