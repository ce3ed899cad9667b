/-!
# Quantities

A `Quantity` is a natural number below `2 ^ 128`. Amounts of money and nonces are quantities; the
bound is the widest integer that a node accepts for them.
-/

namespace ScoreDeploy

/-- The first number that is no quantity, `2 ^ 128`. -/
abbrev Quantity.limit : Nat := 0x100000000000000000000000000000000

/-- A natural number below `2 ^ 128`. -/
structure Quantity where
  /-- The number. -/
  toNat : Nat
  /-- The number keeps the bound. -/
  toNat_lt : toNat < Quantity.limit := by decide
deriving DecidableEq

namespace Quantity

/-- The quantity of a number below the limit. -/
def ofNat? (n : Nat) : Option Quantity :=
  if h : n < limit then some ⟨n, h⟩ else none

/-- No money at all. -/
def zero : Quantity := ⟨0, by decide⟩

@[ext]
theorem ext {a b : Quantity} (h : a.toNat = b.toNat) : a = b := by
  cases a; cases b; simp_all

theorem ofNat?_toNat (q : Quantity) : ofNat? q.toNat = some q :=
  dif_pos q.toNat_lt

theorem toNat_of_ofNat? {n : Nat} {q : Quantity} (h : ofNat? n = some q) : q.toNat = n := by
  unfold ofNat? at h
  split at h
  · cases h; rfl
  · cases h

end Quantity

end ScoreDeploy
