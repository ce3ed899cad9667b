import ScoreDeploy.Bytes.Basic
import Mathlib.Tactic.Ring

/-!
# Numerals in base 256

How `Bytes.toNatBE` and `Bytes.ofNatBE` belong together. A numeral of `n` bytes stands for a number
below `256 ^ n`, zeros in front do not count, and a numeral that starts with another byte has as few
bytes as a numeral of its number can have, so that it is the only one of that form.
-/

namespace ScoreDeploy.Bytes

private theorem foldl_toNatBE (n : Nat) (bs : Bytes) :
    bs.foldl (fun n b => n * 256 + b.toNat) n = n * 256 ^ bs.length + toNatBE bs := by
  induction bs generalizing n with
  | nil => simp [toNatBE]
  | cons b bs ih =>
    have hb := ih b.toNat
    rw [toNatBE, List.foldl_cons, List.foldl_cons, ih, Nat.zero_mul, Nat.zero_add, hb,
      List.length_cons]
    ring

theorem toNatBE_cons (b : UInt8) (bs : Bytes) :
    toNatBE (b :: bs) = b.toNat * 256 ^ bs.length + toNatBE bs := by
  rw [toNatBE, List.foldl_cons, Nat.zero_mul, Nat.zero_add]
  exact foldl_toNatBE b.toNat bs

@[simp]
theorem toNatBE_singleton (b : UInt8) : toNatBE [b] = b.toNat := by
  simp [toNatBE]

theorem toNatBE_lt (bs : Bytes) : toNatBE bs < 256 ^ bs.length := by
  induction bs with
  | nil => simp [toNatBE]
  | cons b bs ih =>
    have hb : b.toNat + 1 ≤ 256 := b.toNat_lt
    calc toNatBE (b :: bs) = b.toNat * 256 ^ bs.length + toNatBE bs := toNatBE_cons b bs
      _ < b.toNat * 256 ^ bs.length + 256 ^ bs.length := Nat.add_lt_add_left ih _
      _ = (b.toNat + 1) * 256 ^ bs.length := by ring
      _ ≤ 256 * 256 ^ bs.length := Nat.mul_le_mul_right _ hb
      _ = 256 ^ (b :: bs).length := by rw [List.length_cons]; ring

/-- Zeros in front do not count. -/
theorem toNatBE_zero_cons (bs : Bytes) : toNatBE (0 :: bs) = toNatBE bs := by
  simp [toNatBE_cons]

theorem toNatBE_dropWhile_zero (bs : Bytes) : toNatBE (bs.dropWhile (· == 0)) = toNatBE bs := by
  induction bs with
  | nil => rfl
  | cons b bs ih =>
    by_cases hb : b = 0
    · rw [hb, List.dropWhile_cons_of_pos (by decide), ih, toNatBE_zero_cons]
    · rw [List.dropWhile_cons_of_neg (by simpa using hb)]

theorem toNatBE_reverse (bs : Bytes) : toNatBE bs.reverse = toNatLE bs := by
  rw [toNatBE, toNatLE, List.foldl_reverse]
  congr 1
  funext b n
  exact Nat.add_comm _ _

theorem toNatLE_ofNatLE (width n : Nat) : toNatLE (ofNatLE width n) = n % 256 ^ width := by
  induction width generalizing n with
  | zero => simp [ofNatLE, toNatLE, Nat.mod_one]
  | succ width ih =>
    have hrest : (ofNatLE width (n / 256)).foldr (fun b n => b.toNat + n * 256) 0 =
        n / 256 % 256 ^ width := ih (n / 256)
    rw [ofNatLE, toNatLE, List.foldr_cons, hrest, UInt8.toNat_ofNat', pow_succ' 256 width,
      Nat.mod_mul, Nat.mul_comm 256]

theorem toNatBE_ofNatBE {width n : Nat} (hn : n < 256 ^ width) : toNatBE (ofNatBE width n) = n := by
  rw [ofNatBE, toNatBE_reverse, toNatLE_ofNatLE, Nat.mod_eq_of_lt hn]

/-- A numeral whose first byte is not zero stands for no small number. -/
theorem pow_le_toNatBE_cons {b : UInt8} (hb : b ≠ 0) (bs : Bytes) :
    256 ^ bs.length ≤ toNatBE (b :: bs) := by
  have hpos : 1 ≤ b.toNat := Nat.one_le_iff_ne_zero.mpr fun h =>
    hb (UInt8.toNat_inj.mp h)
  rw [toNatBE_cons]
  calc 256 ^ bs.length = 1 * 256 ^ bs.length := (Nat.one_mul _).symm
    _ ≤ b.toNat * 256 ^ bs.length := Nat.mul_le_mul_right _ hpos
    _ ≤ b.toNat * 256 ^ bs.length + toNatBE bs := Nat.le_add_right _ _

/-- Numerals of the same width differ in their numbers. -/
theorem eq_of_toNatBE_eq {as bs : Bytes} (hlen : as.length = bs.length)
    (h : toNatBE as = toNatBE bs) : as = bs := by
  induction as generalizing bs with
  | nil => exact (List.eq_nil_of_length_eq_zero hlen.symm).symm
  | cons a as ih =>
    cases bs with
    | nil => simp at hlen
    | cons b bs =>
      have hlen' : as.length = bs.length := by simpa using hlen
      rw [toNatBE_cons, toNatBE_cons, hlen'] at h
      have has : toNatBE as < 256 ^ bs.length := hlen' ▸ toNatBE_lt as
      have hbs := toNatBE_lt bs
      have hpos : 0 < 256 ^ bs.length := Nat.pos_of_neZero _
      -- The first byte is the quotient and the rest is the remainder by the same power.
      have hquot := congrArg (· / 256 ^ bs.length) h
      have hrem := congrArg (· % 256 ^ bs.length) h
      simp only [Nat.add_comm _ (toNatBE _), Nat.add_mul_div_right _ _ hpos,
        Nat.div_eq_of_lt has, Nat.div_eq_of_lt hbs, Nat.zero_add] at hquot
      simp only [Nat.add_comm _ (toNatBE _), Nat.add_mul_mod_self_right,
        Nat.mod_eq_of_lt has, Nat.mod_eq_of_lt hbs] at hrem
      rw [UInt8.toNat_inj.mp hquot, ih hlen' hrem]

/-! ### Numerals without zeros in front -/

/-- A numeral that does not start with a zero. -/
def IsShortest (bs : Bytes) : Prop :=
  bs.head? ≠ some 0

theorem isShortest_dropWhile_zero (bs : Bytes) : IsShortest (bs.dropWhile (· == 0)) := by
  intro h
  have hne := List.head?_dropWhile_not (· == (0 : UInt8)) bs
  rw [h] at hne
  simp at hne

/-- A numeral without zeros in front is no longer than any other numeral of a number that is no
smaller. -/
theorem IsShortest.length_le {as bs : Bytes} (has : IsShortest as)
    (h : toNatBE as ≤ toNatBE bs) : as.length ≤ bs.length := by
  cases as with
  | nil => exact Nat.zero_le _
  | cons a as =>
    have ha : a ≠ 0 := fun h => has (by rw [h]; rfl)
    have hlt : 256 ^ as.length < 256 ^ bs.length :=
      (pow_le_toNatBE_cons ha as).trans_lt (h.trans_lt (toNatBE_lt bs))
    exact (Nat.pow_lt_pow_iff_right (by decide)).mp hlt

/-- There is one numeral of a number without zeros in front. -/
theorem IsShortest.eq {as bs : Bytes} (has : IsShortest as) (hbs : IsShortest bs)
    (h : toNatBE as = toNatBE bs) : as = bs :=
  eq_of_toNatBE_eq ((has.length_le h.le).antisymm (hbs.length_le h.ge)) h

end ScoreDeploy.Bytes
