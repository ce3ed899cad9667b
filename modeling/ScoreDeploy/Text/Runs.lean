/-!
# Runs of characters

A class of characters is given by the runs of codes that belong to it: the first and the last code
of each run, in increasing order.
-/

namespace ScoreDeploy.Text

/-- First and last codes of runs of characters. -/
abbrev Runs := List (Nat × Nat)

/-- Whether a character lies in one of the runs. -/
def isAmong (runs : Runs) (c : Char) : Bool :=
  runs.any fun (first, last) => first ≤ c.toNat && c.toNat ≤ last

end ScoreDeploy.Text
