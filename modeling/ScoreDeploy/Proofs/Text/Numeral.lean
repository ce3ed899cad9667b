import Mathlib.Data.Nat.Digits.Lemmas
import ScoreDeploy.Proofs.Bytes.Hex
import ScoreDeploy.Text.Numeral

/-!
# Numerals as digits

`Denotes` says which number a run of digits in some base stands for, without regard to how it is
read. `read` accepts exactly the runs of digits whose number lies below the limit, with or without a
plus sign. Of the runs for a number the written one has the fewest digits, and is the only one
without a superfluous zero in front.
-/

namespace ScoreDeploy.Numeral

variable {base limit value n : Nat} {cs other : List Char} {ds : List Nat} {c : Char} {d : Nat}

/-! ### Digits -/

/-- The characters are digits of these values, in either case. -/
structure AreDigits (base : Nat) (cs : List Char) (ds : List Nat) : Prop where
  lt_base : ∀ d ∈ ds, d < base
  map_toLower : cs.map Char.toLower = ds.map Nat.digitChar

/-- The characters are digits and stand for the number, the most significant first. -/
def Denotes (base : Nat) (cs : List Char) (n : Nat) : Prop :=
  ∃ ds, AreDigits base cs ds ∧ n = Nat.ofDigits base ds.reverse

theorem digit?_of_le (h : 128 ≤ c.toNat) (base : Nat) : digit? base c = none := by
  have hle : ∀ last : Char, last.toNat < 128 → ¬c ≤ last := by
    intro last hlast hc
    have hc : c.toNat ≤ last.toNat := hc
    omega
  simp [digit?, hle]

theorem digit?_sixteen_iff (hd : d < 16) : digit? 16 c = some d ↔ c.toLower = Nat.digitChar d := by
  by_cases hc : c.toNat < 128
  · have hcode := Hex.nibble?_of_code c.toNat hc
    have hbyte : (UInt8.ofNat c.toNat).toNat = c.toNat :=
      UInt8.toNat_ofNat_of_lt (show c.toNat < 256 by omega)
    rw [Hex.nibble?, Hex.shownByte, hbyte, Char.ofNat_toNat] at hcode
    rcases hcode with ⟨hnone, hno⟩ | ⟨m, hm, hsome, hlower⟩
    · simp [hnone, hno d hd]
    · rw [hsome, hlower, Option.some.injEq]
      exact ⟨fun h => h ▸ rfl, Hex.digitChar_inj m hm d hd⟩
  · have hc : 128 ≤ c.toNat := Nat.le_of_not_lt hc
    rw [digit?_of_le hc, Hex.toLower_of_le hc]
    refine iff_of_false (by simp) fun h => ?_
    have hlt := Hex.toNat_digitChar_lt d hd
    rw [← h] at hlt
    omega

theorem digit?_eq_filter (hbase : base ≤ 16) (c : Char) :
    digit? base c = (digit? 16 c).filter (· < base) := by
  have hboth : (fun d : Nat => decide (d < base)) =
      fun d => decide (d < 16) && decide (d < base) := by
    funext d
    rw [← Bool.decide_and, decide_eq_decide]
    omega
  rw [digit?, digit?, Option.filter_filter, ← hboth]

theorem digit?_eq_some_iff (hbase : base ≤ 16) :
    digit? base c = some d ↔ d < base ∧ c.toLower = Nat.digitChar d := by
  rw [digit?_eq_filter hbase, Option.filter_eq_some_iff, decide_eq_true_iff, and_comm]
  refine and_congr_right fun hd => digit?_sixteen_iff (by omega)

theorem areDigits_nil_iff : AreDigits base [] ds ↔ ds = [] := by
  constructor
  · intro h
    simpa using h.map_toLower
  · rintro rfl
    exact ⟨by simp, rfl⟩

theorem areDigits_cons_iff (hbase : base ≤ 16) :
    AreDigits base (c :: cs) ds ↔
      ∃ d rest, ds = d :: rest ∧ digit? base c = some d ∧ AreDigits base cs rest := by
  constructor
  · rintro ⟨hlt, hlower⟩
    obtain ⟨d, rest, rfl, hd, hrest⟩ := List.map_eq_cons_iff.mp hlower.symm
    obtain ⟨hdlt, hlt⟩ := List.forall_mem_cons.mp hlt
    exact ⟨d, rest, rfl, (digit?_eq_some_iff hbase).mpr ⟨hdlt, hd.symm⟩, hlt, hrest.symm⟩
  · rintro ⟨d, rest, rfl, hdigit, hlt, hrest⟩
    obtain ⟨hdlt, hd⟩ := (digit?_eq_some_iff hbase).mp hdigit
    refine ⟨List.forall_mem_cons.mpr ⟨hdlt, hlt⟩, ?_⟩
    rw [List.map_cons, List.map_cons, hd, hrest]

/-! ### Reading -/

theorem ofDigits_reverse_cons (base d value : Nat) (ds : List Nat) :
    Nat.ofDigits base ((d :: ds).reverse ++ [value]) =
      Nat.ofDigits base (ds.reverse ++ [value * base + d]) := by
  have hvalue : Nat.ofDigits base [d, value] = value * base + d := by
    rw [Nat.ofDigits_cons, Nat.ofDigits_singleton, Nat.add_comm, Nat.mul_comm]
  simp only [List.reverse_cons, List.append_assoc, List.singleton_append, Nat.ofDigits_append,
    hvalue, Nat.ofDigits_singleton]

theorem le_ofDigits_append (hpos : 0 < base) (value : Nat) (ds : List Nat) :
    value ≤ Nat.ofDigits base (ds ++ [value]) := by
  rw [Nat.ofDigits_append, Nat.ofDigits_singleton]
  calc value = 1 * value := (Nat.one_mul value).symm
    _ ≤ base ^ ds.length * value := Nat.mul_le_mul_right _ (Nat.one_le_pow _ _ hpos)
    _ ≤ Nat.ofDigits base ds + base ^ ds.length * value := Nat.le_add_left _ _

/-- A number that stays below the limit stays below it from digit to digit. -/
theorem accumulate_eq_ok_iff (hpos : 0 < base) (hbase : base ≤ 16) (hvalue : value < limit) :
    accumulate base limit value cs = .ok n ↔
      ∃ ds, AreDigits base cs ds ∧ n = Nat.ofDigits base (ds.reverse ++ [value]) ∧ n < limit := by
  -- Along the digits; what was read of the number so far is below the limit at each of them.
  induction cs generalizing value with
  | nil =>
    rw [accumulate, Except.ok.injEq]
    constructor
    · rintro rfl
      exact ⟨[], areDigits_nil_iff.mpr rfl, by simp, hvalue⟩
    · rintro ⟨ds, hds, rfl, -⟩
      rw [areDigits_nil_iff.mp hds]
      simp
  | cons c cs ih =>
    rw [accumulate]
    cases hdigit : digit? base c with
    | none =>
      refine iff_of_false (by simp) ?_
      rintro ⟨ds, hds, -⟩
      obtain ⟨d, _, -, hsome, -⟩ := (areDigits_cons_iff hbase).mp hds
      rw [hdigit] at hsome
      cases hsome
    | some d =>
      dsimp only
      by_cases hnext : value * base + d < limit
      · rw [if_pos hnext, ih hnext]
        constructor
        · rintro ⟨rest, hrest, hn, hlt⟩
          refine ⟨d :: rest, (areDigits_cons_iff hbase).mpr ⟨d, rest, rfl, hdigit, hrest⟩, ?_, hlt⟩
          rw [hn, ofDigits_reverse_cons]
        · rintro ⟨ds, hds, hn, hlt⟩
          obtain ⟨d', rest, rfl, hsome, hrest⟩ := (areDigits_cons_iff hbase).mp hds
          obtain rfl : d = d' := Option.some.inj (hdigit.symm.trans hsome)
          refine ⟨rest, hrest, ?_, hlt⟩
          rw [hn, ofDigits_reverse_cons]
      · rw [if_neg hnext]
        refine iff_of_false (by simp) ?_
        rintro ⟨ds, hds, hn, hlt⟩
        obtain ⟨d', rest, rfl, hsome, -⟩ := (areDigits_cons_iff hbase).mp hds
        obtain rfl : d = d' := Option.some.inj (hdigit.symm.trans hsome)
        rw [ofDigits_reverse_cons] at hn
        -- Later digits do not make the number smaller.
        have hle := le_ofDigits_append hpos (value * base + d) rest.reverse
        omega

theorem accumulate_zero_eq_ok_iff (hpos : 0 < base) (hbase : base ≤ 16) (hlimit : 0 < limit) :
    accumulate base limit 0 cs = .ok n ↔ Denotes base cs n ∧ n < limit := by
  rw [accumulate_eq_ok_iff hpos hbase hlimit]
  simp only [Denotes, Nat.ofDigits_append, Nat.ofDigits_singleton, Nat.mul_zero, Nat.add_zero,
    ← and_assoc, exists_and_right]

/-- A plus sign is no digit. -/
theorem Denotes.not_plus (hbase : base ≤ 16) : ¬Denotes base ('+' :: cs) n := by
  rintro ⟨ds, hds, -⟩
  obtain ⟨d, _, -, hsome, -⟩ := (areDigits_cons_iff hbase).mp hds
  rw [digit?_eq_filter hbase] at hsome
  cases hsome

theorem read_eq_ok_iff (hpos : 0 < base) (hbase : base ≤ 16) (hlimit : 0 < limit) :
    read base limit cs = .ok n ↔
      ∃ sign digits, cs = sign ++ digits ∧ (sign = [] ∨ sign = ['+']) ∧ digits ≠ [] ∧
        Denotes base digits n ∧ n < limit := by
  constructor
  · intro h
    unfold read at h
    split at h
    · cases h
    · cases h
    · next digits hne =>
      rw [accumulate_zero_eq_ok_iff hpos hbase hlimit] at h
      refine ⟨['+'], digits, rfl, .inr rfl, ?_, h⟩
      rintro rfl
      exact hne rfl
    · next hne _ _ =>
      rw [accumulate_zero_eq_ok_iff hpos hbase hlimit] at h
      exact ⟨[], cs, rfl, .inl rfl, hne, h⟩
  · rintro ⟨sign, digits, rfl, hsign, hne, h⟩
    have haccumulate := (accumulate_zero_eq_ok_iff hpos hbase hlimit).mpr h
    rcases hsign with rfl | rfl
    · rw [List.nil_append, read]
      · exact haccumulate
      · exact hne
      · rintro rfl
        exact h.1.not_plus hbase
      · rintro rest rfl
        exact h.1.not_plus hbase
    · rw [List.singleton_append, read]
      · exact haccumulate
      · exact hne

/-! ### Writing -/

/-- The digits of a number, the most significant first. -/
def digitsOf (base n : Nat) : List Nat :=
  if n = 0 then [0] else (Nat.digits base n).reverse

theorem toDigits_eq_map (hbase : 1 < base) (n : Nat) :
    Nat.toDigits base n = (digitsOf base n).map Nat.digitChar := by
  induction n using Nat.strongRecOn with
  | ind n ih =>
    by_cases hzero : n = 0
    · subst hzero
      rw [Nat.toDigits_zero]
      rfl
    by_cases hsmall : n < base
    · rw [Nat.toDigits_of_lt_base hsmall, digitsOf, if_neg hzero,
        Nat.digits_of_lt base n hzero hsmall]
      rfl
    · have hle : base ≤ n := Nat.le_of_not_lt hsmall
      have hdiv : n / base ≠ 0 := Nat.ne_of_gt (Nat.div_pos hle (by omega))
      rw [Nat.toDigits_of_base_le hbase hle,
        ih (n / base) (Nat.div_lt_self (Nat.pos_of_ne_zero hzero) hbase), digitsOf, digitsOf,
        if_neg hzero, if_neg hdiv, Nat.digits_def' hbase (Nat.pos_of_ne_zero hzero),
        List.reverse_cons, List.map_append]
      rfl

theorem ofDigits_digitsOf (base n : Nat) : Nat.ofDigits base (digitsOf base n).reverse = n := by
  rw [digitsOf]
  split_ifs with hzero
  · simp [hzero]
  · rw [List.reverse_reverse, Nat.ofDigits_digits]

theorem areDigits_toDigits (hbase : 1 < base) (hle : base ≤ 16) (n : Nat) :
    AreDigits base (Nat.toDigits base n) (digitsOf base n) := by
  have hlt : ∀ d ∈ digitsOf base n, d < base := by
    intro d hd
    rw [digitsOf] at hd
    split_ifs at hd with hzero
    · rw [List.mem_singleton.mp hd]
      omega
    · exact Nat.digits_lt_base hbase (List.mem_reverse.mp hd)
  refine ⟨hlt, ?_⟩
  rw [toDigits_eq_map hbase, List.map_map]
  refine List.map_congr_left fun d hd => ?_
  have hlower : ∀ d < 16, (Nat.digitChar d).toLower = Nat.digitChar d := by decide
  exact hlower d ((hlt d hd).trans_le hle)

theorem denotes_toDigits (hbase : 1 < base) (hle : base ≤ 16) (n : Nat) :
    Denotes base (Nat.toDigits base n) n :=
  ⟨_, areDigits_toDigits hbase hle n, (ofDigits_digitsOf base n).symm⟩

theorem AreDigits.length_eq (h : AreDigits base cs ds) : cs.length = ds.length := by
  simpa using congrArg List.length h.map_toLower

theorem Denotes.lt_pow (hbase : 1 < base) (h : Denotes base cs n) : n < base ^ cs.length := by
  obtain ⟨ds, hds, rfl⟩ := h
  rw [hds.length_eq, ← List.length_reverse]
  exact Nat.ofDigits_lt_base_pow_length hbase (by simpa using hds.lt_base)

/-- No run of digits for a number is shorter than the written one. -/
theorem Denotes.length_toDigits_le (hbase : 1 < base) (h : Denotes base cs n) (hne : cs ≠ []) :
    (Nat.toDigits base n).length ≤ cs.length :=
  (Nat.length_toDigits_le_iff hbase (List.length_pos_iff.mpr hne)).mpr (h.lt_pow hbase)

/-- Two runs for one number are the same digits if they are equally long. -/
theorem Denotes.exists_areDigits (hbase : 1 < base) (h : Denotes base cs n)
    (hother : Denotes base other n) (hlength : cs.length = other.length) :
    ∃ ds, AreDigits base cs ds ∧ AreDigits base other ds := by
  obtain ⟨ds, hds, hn⟩ := h
  obtain ⟨others, hothers, hn'⟩ := hother
  have hsame : ds.reverse = others.reverse := by
    apply Nat.ofDigits_inj_of_len_eq hbase
    · rw [List.length_reverse, List.length_reverse, ← hds.length_eq, hlength, hothers.length_eq]
    · simpa using hds.lt_base
    · simpa using hothers.lt_base
    · rw [← hn, hn']
  obtain rfl := List.reverse_injective hsame
  exact ⟨ds, hds, hothers⟩

/-- A run of digits of the same length is the written one but for the case of letters. -/
theorem Denotes.map_toLower_eq (hbase : 1 < base) (hle : base ≤ 16) (h : Denotes base cs n)
    (hlength : cs.length = (Nat.toDigits base n).length) :
    cs.map Char.toLower = Nat.toDigits base n := by
  obtain ⟨ds, hds, hwritten⟩ := h.exists_areDigits hbase (denotes_toDigits hbase hle n) hlength
  calc cs.map Char.toLower = (Nat.toDigits base n).map Char.toLower := by
        rw [hds.map_toLower, hwritten.map_toLower]
    _ = (digitsOf base n).map Nat.digitChar := (areDigits_toDigits hbase hle n).map_toLower
    _ = Nat.toDigits base n := (toDigits_eq_map hbase n).symm

/-- Only zero is written with a zero in front. -/
theorem eq_zero_of_head?_toDigits (hbase : 1 < base) (h : (Nat.toDigits base n).head? = some '0') :
    n = 0 := by
  by_contra hzero
  rw [toDigits_eq_map hbase, digitsOf, if_neg hzero, List.head?_map, List.head?_reverse,
    List.getLast?_eq_some_getLast (Nat.digits_ne_nil_iff_ne_zero.mpr hzero), Option.map_some,
    Option.some.injEq, Nat.digitChar_eq_zero] at h
  exact Nat.getLast_digit_ne_zero base hzero h

/-! ### Base ten -/

theorem toLower_eq_digitChar_iff (hd : d < 10) :
    c.toLower = Nat.digitChar d ↔ c = Nat.digitChar d := by
  by_cases hc : c.toNat < 128
  · have hcode : ∀ k < 128, ∀ d < 10,
        (Char.ofNat k).toLower = Nat.digitChar d ↔ Char.ofNat k = Nat.digitChar d := by
      decide +kernel
    have hchar := hcode c.toNat hc d hd
    rwa [Char.ofNat_toNat] at hchar
  · rw [Hex.toLower_of_le (Nat.le_of_not_lt hc)]

theorem areDigits_ten_iff :
    AreDigits 10 cs ds ↔ (∀ d ∈ ds, d < 10) ∧ cs = ds.map Nat.digitChar := by
  induction cs generalizing ds with
  | nil =>
    rw [areDigits_nil_iff]
    constructor
    · rintro rfl
      simp
    · rintro ⟨-, h⟩
      simpa using h
  | cons c cs ih =>
    rw [areDigits_cons_iff (by decide)]
    constructor
    · rintro ⟨d, rest, rfl, hdigit, hrest⟩
      obtain ⟨hd, hlower⟩ := (digit?_eq_some_iff (by decide)).mp hdigit
      obtain ⟨hlt, rfl⟩ := ih.mp hrest
      refine ⟨List.forall_mem_cons.mpr ⟨hd, hlt⟩, ?_⟩
      rw [(toLower_eq_digitChar_iff hd).mp hlower, List.map_cons]
    · rintro ⟨hlt, hcons⟩
      obtain ⟨d, rest, rfl, rfl, hrest⟩ := List.map_eq_cons_iff.mp hcons.symm
      obtain ⟨hd, hlt⟩ := List.forall_mem_cons.mp hlt
      refine ⟨d, rest, rfl, (digit?_eq_some_iff (by decide)).mpr ⟨hd, ?_⟩, ih.mpr ⟨hlt, hrest.symm⟩⟩
      exact (toLower_eq_digitChar_iff hd).mpr rfl

theorem exists_digitChar_eq (h : c.isDigit = true) : ∃ d < 10, c = Nat.digitChar d := by
  have hle : 48 ≤ c.toNat ∧ c.toNat ≤ 57 := by
    simpa [Char.isDigit, UInt32.le_iff_toNat_le] using h
  refine ⟨c.toNat - 48, by omega, Char.toNat_inj.mp ?_⟩
  rw [Nat.toNat_digitChar_of_lt_ten (by omega)]
  omega

theorem ofDigitChars_map_digitChar (hlt : ∀ d ∈ ds, d < 10) (value : Nat) :
    Nat.ofDigitChars 10 (ds.map Nat.digitChar) value = Nat.ofDigits 10 (ds.reverse ++ [value]) := by
  induction ds generalizing value with
  | nil => simp
  | cons d ds ih =>
    obtain ⟨hd, hlt⟩ := List.forall_mem_cons.mp hlt
    rw [List.map_cons, Nat.ofDigitChars_cons_digitChar_of_lt_ten hd, ih hlt, ofDigits_reverse_cons,
      Nat.mul_comm]

/-- In base ten the digits are the ASCII digits. -/
theorem denotes_ten_iff :
    Denotes 10 cs n ↔ (∀ c ∈ cs, c.isDigit = true) ∧ n = Nat.ofDigitChars 10 cs 0 := by
  have hvalue : ∀ {ds : List Nat}, (∀ d ∈ ds, d < 10) →
      Nat.ofDigitChars 10 (ds.map Nat.digitChar) 0 = Nat.ofDigits 10 ds.reverse := by
    intro ds hlt
    rw [ofDigitChars_map_digitChar hlt, Nat.ofDigits_append]
    simp
  constructor
  · rintro ⟨ds, hds, rfl⟩
    obtain ⟨hlt, rfl⟩ := areDigits_ten_iff.mp hds
    refine ⟨?_, (hvalue hlt).symm⟩
    intro c hc
    obtain ⟨d, hd, rfl⟩ := List.mem_map.mp hc
    simp [Nat.isDigit_digitChar, hlt d hd]
  · rintro ⟨hdigit, rfl⟩
    have hexists : ∃ ds : List Nat, (∀ d ∈ ds, d < 10) ∧ cs = ds.map Nat.digitChar := by
      induction cs with
      | nil => exact ⟨[], by simp, rfl⟩
      | cons c cs ih =>
        obtain ⟨hc, hcs⟩ := List.forall_mem_cons.mp hdigit
        obtain ⟨d, hd, rfl⟩ := exists_digitChar_eq hc
        obtain ⟨ds, hlt, rfl⟩ := ih hcs
        exact ⟨d :: ds, List.forall_mem_cons.mpr ⟨hd, hlt⟩, rfl⟩
    obtain ⟨ds, hlt, rfl⟩ := hexists
    exact ⟨ds, areDigits_ten_iff.mpr ⟨hlt, rfl⟩, hvalue hlt⟩

theorem isDigit_zeros (count : Nat) : ∀ c ∈ List.replicate count '0', c.isDigit = true := by
  intro c hc
  rw [List.eq_of_mem_replicate hc]
  rfl

/-- Zeros in front do not count. -/
theorem Denotes.zeros_append (h : Denotes 10 cs n) (count : Nat) :
    Denotes 10 (List.replicate count '0' ++ cs) n := by
  obtain ⟨hdigit, hvalue⟩ := denotes_ten_iff.mp h
  refine denotes_ten_iff.mpr ⟨List.forall_mem_append.mpr ⟨isDigit_zeros count, hdigit⟩, ?_⟩
  rw [Nat.ofDigitChars_append, Nat.ofDigitChars_replicate_zero, Nat.mul_zero]
  exact hvalue

/-- A zero behind makes ten times as much. -/
theorem Denotes.append_zeros (h : Denotes 10 cs n) (count : Nat) :
    Denotes 10 (cs ++ List.replicate count '0') (n * 10 ^ count) := by
  obtain ⟨hdigit, rfl⟩ := denotes_ten_iff.mp h
  refine denotes_ten_iff.mpr ⟨List.forall_mem_append.mpr ⟨hdigit, isDigit_zeros count⟩, ?_⟩
  rw [Nat.ofDigitChars_append, Nat.ofDigitChars_replicate_zero, Nat.mul_comm]

theorem denotes_padded (width n : Nat) : Denotes 10 (padded width n) n :=
  (denotes_toDigits (by decide) (by decide) n).zeros_append _

theorem Denotes.eq_of_length_eq (h : Denotes 10 cs n) (hother : Denotes 10 other n)
    (hlength : cs.length = other.length) : cs = other := by
  obtain ⟨ds, hds, hothers⟩ := h.exists_areDigits (by decide) hother hlength
  rw [(areDigits_ten_iff.mp hds).2, (areDigits_ten_iff.mp hothers).2]

/-- A run of digits without a superfluous zero in front is the written one. -/
theorem Denotes.eq_toDigits (h : Denotes 10 cs n) (hne : cs ≠ [])
    (hhead : cs.head? = some '0' → cs = ['0']) : cs = Nat.toDigits 10 n := by
  obtain ⟨ds, hds, rfl⟩ := h
  obtain ⟨hlt, rfl⟩ := areDigits_ten_iff.mp hds
  by_cases hzero : ds.head? = some 0
  · have hlone := hhead (by simp [hzero])
    obtain ⟨d, rfl, hd⟩ := List.map_eq_singleton_iff.mp hlone
    obtain rfl := Nat.digitChar_eq_zero.mp hd
    simp
  · have hdigits : Nat.digits 10 (Nat.ofDigits 10 ds.reverse) = ds.reverse := by
      apply Nat.digits_ofDigits 10 (by decide)
      · simpa using hlt
      · intro hnil hlast
        apply hzero
        rw [← List.getLast?_reverse, List.getLast?_eq_some_getLast hnil, hlast]
    have hpos : Nat.ofDigits 10 ds.reverse ≠ 0 := by
      intro hnone
      rw [hnone, Nat.digits_zero] at hdigits
      apply hne
      simpa using hdigits.symm
    rw [toDigits_eq_map (by decide), digitsOf, if_neg hpos, hdigits, List.reverse_reverse]

end ScoreDeploy.Numeral
