import ScoreDeploy.Text.Blank
import ScoreDeploy.Text.Numeral
import ScoreDeploy.Quantity

/-!
# Amounts of ICX

Money is counted in loop; one ICX is `10 ^ 18` loop. `format` writes an amount of loop as a decimal
number of ICX without superfluous zeros. `parse` reads a decimal number of ICX with at most eighteen
places, blanks around it allowed, and is exact: an amount that is no whole number of loop or does
not fit a `Quantity` is an error.
-/

namespace ScoreDeploy

/-- An amount of money, counted in loop. -/
abbrev Loop := Quantity

namespace Loop

/-- The number of decimal places of an ICX amount. -/
def places : Nat := 18

/-- The loop in one ICX. -/
def perIcx : Nat := Nat.pow 10 places

/-- Why a text is no amount of ICX. Each error carries the text without the blanks around it. -/
inductive Error where
  /-- There is a digit neither before nor after the point. -/
  | empty
  /-- More places are given than a loop can resolve. -/
  | tooPrecise (text : String)
  /-- A part holds a character that is no ASCII digit. -/
  | notDigits (text : String)
  /-- A part alone is no quantity. -/
  | partTooLarge (text : String)
  /-- The amount in loop is no quantity. -/
  | outOfRange (text : String)
deriving DecidableEq, Repr

/-- The wording of an error. -/
def Error.message : Error → String
  | .empty => "empty ICX amount"
  | .tooPrecise text =>
    "ICX amount " ++ text ++ " has more than " ++ Numeral.decimal places ++ " decimal places"
  | .notDigits text => "invalid ICX amount: " ++ text
  | .partTooLarge text =>
    "invalid ICX amount " ++ text ++ ": " ++ Numeral.Fault.message .tooLarge
  | .outOfRange text => "ICX amount out of range: " ++ text

/-- The characters of an amount: the whole ICX, and after a point the remaining loop as eighteen
places less the zeros at their end, if any remain. -/
def formatChars (n : Nat) : List Char :=
  let whole := Nat.toDigits 10 (n / perIcx)
  if n % perIcx = 0 then whole
  else whole ++ '.' :: Text.dropEndWhile (· == '0') (Numeral.padded places (n % perIcx))

/-- The amount as a decimal number of ICX. -/
def format (amount : Loop) : String :=
  String.ofList (formatChars amount.toNat)

/-- The text before the first point and the text after it, which is empty when there is none. -/
def splitAtPoint (cs : List Char) : List Char × List Char :=
  (cs.takeWhile (· != '.'), (cs.dropWhile (· != '.')).drop 1)

/-- The number that a part of the amount denotes; a part without digits denotes zero. -/
def readPart (text : String) (part : List Char) : Except Error Nat :=
  if ¬part.all Char.isDigit then .error (.notDigits text)
  else if part.isEmpty then .ok 0
  else (Numeral.read 10 Quantity.limit part).mapError fun _ => .partTooLarge text

/-- The amount that a text denotes. -/
def parse (input : String) : Except Error Loop := do
  let cs := Text.trimBlanks input.toList
  let text := String.ofList cs
  let (whole, fraction) := splitAtPoint cs
  if whole.isEmpty ∧ fraction.isEmpty then throw .empty
  if places < (String.ofList fraction).utf8ByteSize then throw (.tooPrecise text)
  let icx ← readPart text whole
  let rest ← readPart text fraction
  match Quantity.ofNat? (icx * perIcx + rest * Nat.pow 10 (places - fraction.length)) with
  | some amount => return amount
  | none => throw (.outOfRange text)

end Loop

end ScoreDeploy
