/-!
# Numerals of bounded size

A numeral is a non-empty run of digits in some base, after an optional plus sign. `read` turns it
into the number it denotes, provided that number lies below a given limit, and otherwise says which
of three faults it met first. Writing is core's `Nat.toDigits`, so a written numeral has no leading
zero and no sign.
-/

namespace ScoreDeploy.Numeral

/-- Why a text is no numeral below the limit. -/
inductive Fault where
  /-- The text has no characters. -/
  | empty
  /-- A character is no digit of the base, or a sign stands alone. -/
  | invalidDigit
  /-- The digits read so far reach the limit. -/
  | tooLarge
deriving DecidableEq, Repr

/-- The wording of a fault. -/
def Fault.message : Fault → String
  | .empty => "cannot parse integer from empty string"
  | .invalidDigit => "invalid digit found in string"
  | .tooLarge => "number too large to fit in target type"

/-- The value of an ASCII digit or letter of either case as a digit of `base`. -/
def digit? (base : Nat) (c : Char) : Option Nat :=
  let value :=
    if '0' ≤ c ∧ c ≤ '9' then some (c.toNat - '0'.toNat)
    else if 'a' ≤ c ∧ c ≤ 'z' then some (c.toNat - 'a'.toNat + 10)
    else if 'A' ≤ c ∧ c ≤ 'Z' then some (c.toNat - 'A'.toNat + 10)
    else none
  value.filter (· < base)

/-- Appends digits to the number read so far. The digit is looked at before the limit, so a
character that is both foreign and one too many counts as foreign. -/
def accumulate (base limit : Nat) : Nat → List Char → Except Fault Nat
  | value, [] => .ok value
  | value, c :: cs =>
    match digit? base c with
    | none => .error .invalidDigit
    | some d =>
      if value * base + d < limit then accumulate base limit (value * base + d) cs
      else .error .tooLarge

/-- The number below `limit` that the text denotes in `base`. -/
def read (base limit : Nat) : List Char → Except Fault Nat
  | [] => .error .empty
  | ['+'] => .error .invalidDigit
  | '+' :: cs => accumulate base limit 0 cs
  | cs => accumulate base limit 0 cs

/-- The number in base ten with zeros in front, up to `width` characters. -/
def padded (width n : Nat) : List Char :=
  let digits := Nat.toDigits 10 n
  List.replicate (width - digits.length) '0' ++ digits

/-- The number in base ten. -/
def decimal (n : Nat) : String :=
  String.ofList (Nat.toDigits 10 n)

/-- The number in base sixteen, in lowercase. -/
def hex (n : Nat) : String :=
  String.ofList (Nat.toDigits 16 n)

end ScoreDeploy.Numeral
