/-!
# Binary floating point numbers

The finite numbers of the 64-bit binary format, without infinities and without signalling. A number
is a sign and a count of the smallest positive number `2 ^ -1074`, so that zero has two forms.
`round` takes the nearest such count to a quotient, of two equally near ones the one whose last bit
is zero, and refuses a quotient that would round to infinity; products and quotients are rounded
once.
-/

namespace ScoreDeploy

/-- A sign and a count of `2 ^ -1074`. -/
structure Binary64 where
  /-- Whether the sign is minus. -/
  negative : Bool
  /-- The absolute value in multiples of the smallest positive number. -/
  units : Nat
deriving DecidableEq

namespace Binary64

/-- The units in the number one. -/
def one : Nat := 1 <<< 1074

/-- The first count that no finite number has. -/
def bound : Nat := one <<< 1024

/-- How many low bits of a count do not fit the 53 bits of a significand. -/
def excess (count : Nat) : Nat :=
  Nat.log2 count + 1 - 53

/-- The count nearest to `num / den`, ties going to the even significand. -/
def roundCount (num den : Nat) : Nat :=
  let whole := num / den
  let shift := excess whole
  let step := den <<< shift
  let kept := num / step
  let rest := num % step
  let up := step < 2 * rest ∨ (step = 2 * rest ∧ kept % 2 = 1)
  (if up then kept + 1 else kept) <<< shift

/-- The count nearest to `num / den`, unless it exceeds all finite numbers. -/
def round (num den : Nat) : Option Nat :=
  let count := roundCount num den
  if count < bound then some count else none

/-- The count nearest to a natural number below the bound of the format. -/
def ofNat (n : Nat) : Nat :=
  roundCount (n * one) 1

/-- A power of ten. -/
def ten (exponent : Nat) : Nat := Nat.pow 10 exponent

/-- The count nearest to a power of ten with an exponent up to 308. -/
def powerOfTen (exponent : Nat) : Nat :=
  ofNat (ten exponent)

/-- The product of two counts. -/
def mul (a b : Nat) : Option Nat :=
  round (a * b) one

/-- The quotient of two counts, the second one at least one. -/
def div (a b : Nat) : Nat :=
  roundCount (a * one) b

end Binary64

end ScoreDeploy
