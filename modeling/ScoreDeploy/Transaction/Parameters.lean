import ScoreDeploy.HexNumeral
import ScoreDeploy.Json.Text

/-!
# Parameters on the wire

A contract receives neither numbers nor booleans. `wireForm` replaces each of them, at any depth, by
a text: an integer by its hexadecimal numeral, with a minus sign in front if it is negative, a
boolean by `0x1` or `0x0`, and any other number by its JSON text. Texts, nulls, keys and the shape
of the value stay.
-/

namespace ScoreDeploy

/-- The named parameters of a call or of a deployment. -/
abbrev Params := Json.Members

namespace Params

/-- The text of an integer. -/
def integerText (n : Int) : String :=
  if n < 0 then "-" ++ HexNumeral.write n.natAbs else HexNumeral.write n.natAbs

/-- The text of a number. -/
def numberText : Json.Number → String
  | .integer n => integerText n.toInt
  | .float x => x.text

/-- The text of a boolean. -/
def booleanText (b : Bool) : String :=
  if b then "0x1" else "0x0"

mutual

/-- A value without numbers and booleans. -/
def wireValue : Json → Json
  | .null => .null
  | .bool b => .string (booleanText b)
  | .number n => .string (numberText n)
  | .string s => .string s
  | .array items => .array (wireItems [] items)
  | .object members => .object (wireMembers [] members)

/-- The wire forms of the items, behind those already `done`, the last one first. -/
def wireItems (done : List Json) : List Json → List Json
  | [] => done.reverse
  | item :: rest => wireItems (wireValue item :: done) rest

/-- The wire forms of the members, behind those already `done`, the last one first. -/
def wireMembers (done : Params) : Params → Params
  | [] => done.reverse
  | (key, value) :: rest => wireMembers ((key, wireValue value) :: done) rest

end

/-- The parameters as a contract receives them. -/
def wireForm (params : Params) : Params :=
  wireMembers [] params

end Params

end ScoreDeploy
