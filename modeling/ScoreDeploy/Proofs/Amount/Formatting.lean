import ScoreDeploy.Proofs.Amount.Parsing

/-!
# Amounts that are written and read back

`IsCanonical` says which decimal numbers have nothing superfluous. `format` writes these, `parse`
reads them back as what they were, and of all texts for one amount exactly one is of this kind.
-/

namespace ScoreDeploy.Loop

variable {cs whole fraction : List Char} {n : Nat}

/-- A number of ICX without a superfluous zero in front. -/
structure IsWhole (whole : List Char) : Prop where
  ne_nil : whole ≠ []
  isDigit : ∀ c ∈ whole, c.isDigit = true
  zero : whole.head? = some '0' → whole = ['0']

/-- One to eighteen places without a superfluous zero behind them. -/
structure IsPlaces (fraction : List Char) : Prop where
  ne_nil : fraction ≠ []
  isDigit : ∀ c ∈ fraction, c.isDigit = true
  length_le : fraction.length ≤ 18
  last : ∀ c ∈ fraction.getLast?, c ≠ '0'

/-- A decimal number in which no character is superfluous. -/
inductive IsCanonical : List Char → Prop
  | whole {whole : List Char} : IsWhole whole → IsCanonical whole
  | pointed {whole fraction : List Char} : IsWhole whole → IsPlaces fraction →
      IsCanonical (whole ++ '.' :: fraction)

/-! ### The whole ICX -/

theorem isWhole_toDigits (n : Nat) : IsWhole (Nat.toDigits 10 n) where
  ne_nil := Nat.toDigits_ne_nil
  isDigit := (Numeral.denotes_ten_iff.mp (Numeral.denotes_toDigits (by decide) (by decide) n)).1
  zero := by
    intro h
    rw [Numeral.eq_zero_of_head?_toDigits (by decide) h, Nat.toDigits_zero]

theorem IsWhole.toDigits_eq (h : IsWhole whole) :
    Nat.toDigits 10 (Nat.ofDigitChars 10 whole 0) = whole :=
  ((Numeral.denotes_ten_iff.mpr ⟨h.isDigit, rfl⟩).eq_toDigits h.ne_nil h.zero).symm

/-! ### The places -/

/-- The eighteen places without the zeros at their end. -/
def shownPlaces (n : Nat) : List Char :=
  Text.dropEndWhile (· == '0') (Numeral.padded 18 n)

theorem length_padded (h : n < 10 ^ 18) : (Numeral.padded 18 n).length = 18 := by
  have hle := (Nat.length_toDigits_le_iff (show 1 < 10 by decide) (show 0 < 18 by decide)).mpr h
  rw [Numeral.padded, List.length_append, List.length_replicate]
  omega

/-- What is not shown of the places are zeros. -/
theorem padded_eq (h : n < 10 ^ 18) : (shownPlaces n).length ≤ 18 ∧
    Numeral.padded 18 n = shownPlaces n ++ List.replicate (18 - (shownPlaces n).length) '0' := by
  obtain ⟨back, hback, hzero⟩ := Text.exists_dropEndWhile_append (· == '0') (Numeral.padded 18 n)
  have hlength := congrArg List.length hback
  rw [length_padded h, List.length_append] at hlength
  have hrest : back = List.replicate (18 - (shownPlaces n).length) '0' := by
    refine List.eq_replicate_iff.mpr ⟨?_, by simpa using hzero⟩
    rw [shownPlaces]
    omega
  refine ⟨?_, ?_⟩
  · rw [shownPlaces]
    omega
  · rw [← hrest]
    exact hback.symm

theorem isDigit_shownPlaces (h : n < 10 ^ 18) : ∀ c ∈ shownPlaces n, c.isDigit = true := by
  obtain ⟨hdigit, -⟩ := Numeral.denotes_ten_iff.mp (Numeral.denotes_padded 18 n)
  rw [(padded_eq h).2, List.forall_mem_append] at hdigit
  exact hdigit.1

theorem ofDigitChars_shownPlaces (h : n < 10 ^ 18) :
    Nat.ofDigitChars 10 (shownPlaces n) 0 * 10 ^ (18 - (shownPlaces n).length) = n := by
  have hshown := Numeral.denotes_ten_iff.mpr ⟨isDigit_shownPlaces h, rfl⟩
  obtain ⟨-, hvalue⟩ := Numeral.denotes_ten_iff.mp
    (hshown.append_zeros (18 - (shownPlaces n).length))
  obtain ⟨-, hn⟩ := Numeral.denotes_ten_iff.mp (Numeral.denotes_padded 18 n)
  rw [hvalue, ← (padded_eq h).2]
  exact hn.symm

theorem isPlaces_shownPlaces (h : n < 10 ^ 18) (hne : n ≠ 0) : IsPlaces (shownPlaces n) where
  ne_nil := by
    intro hnil
    have hvalue := ofDigitChars_shownPlaces h
    rw [hnil] at hvalue
    exact hne (by simpa using hvalue.symm)
  isDigit := isDigit_shownPlaces h
  length_le := (padded_eq h).1
  last := by
    intro c hc
    simpa using Text.eq_false_of_mem_getLast? hc

/-- Places without a superfluous zero are the ones that are shown for what they denote. -/
theorem IsPlaces.shownPlaces_eq (h : IsPlaces fraction) :
    shownPlaces (Nat.ofDigitChars 10 fraction 0 * 10 ^ (18 - fraction.length)) = fraction := by
  -- Two runs of eighteen digits for one number are the same run.
  have hfilled : Numeral.padded 18 (Nat.ofDigitChars 10 fraction 0 * 10 ^ (18 - fraction.length)) =
      fraction ++ List.replicate (18 - fraction.length) '0' := by
    have hdenotes := Numeral.denotes_ten_iff.mpr ⟨h.isDigit, rfl⟩
    apply (Numeral.denotes_padded 18 _).eq_of_length_eq (hdenotes.append_zeros _)
    have hle := h.length_le
    rw [length_padded (ofDigitChars_mul_pow_lt h.isDigit hle), List.length_append,
      List.length_replicate]
    omega
  rw [shownPlaces, hfilled, Text.dropEndWhile_append_of_forall (by simp +contextual),
    Text.dropEndWhile_eq_self (by simpa using h.last)]

theorem IsPlaces.ne_zero (h : IsPlaces fraction) :
    Nat.ofDigitChars 10 fraction 0 * 10 ^ (18 - fraction.length) ≠ 0 := by
  intro hzero
  have hshown := h.shownPlaces_eq
  rw [hzero] at hshown
  exact h.ne_nil hshown.symm

/-! ### Whole amounts -/

theorem IsWhole.isDecimal (h : IsWhole whole) :
    IsDecimal whole (Nat.ofDigitChars 10 whole 0 * 10 ^ 18) :=
  .whole h.ne_nil h.isDigit

theorem IsWhole.isDecimal_pointed (h : IsWhole whole) (hplaces : IsPlaces fraction) :
    IsDecimal (whole ++ '.' :: fraction) (Nat.ofDigitChars 10 whole 0 * 10 ^ 18 +
      Nat.ofDigitChars 10 fraction 0 * 10 ^ (18 - fraction.length)) :=
  .pointed (.inl h.ne_nil) h.isDigit hplaces.isDigit hplaces.length_le

theorem formatChars_eq (n : Nat) :
    formatChars n = if n % 10 ^ 18 = 0 then Nat.toDigits 10 (n / 10 ^ 18)
      else Nat.toDigits 10 (n / 10 ^ 18) ++ '.' :: shownPlaces (n % 10 ^ 18) :=
  rfl

theorem isCanonical_formatChars (n : Nat) : IsCanonical (formatChars n) := by
  have hwhole := isWhole_toDigits (n / 10 ^ 18)
  rw [formatChars_eq]
  by_cases hzero : n % 10 ^ 18 = 0
  · rw [if_pos hzero]
    exact .whole hwhole
  · rw [if_neg hzero]
    exact .pointed hwhole (isPlaces_shownPlaces (Nat.mod_lt _ (by decide)) hzero)

theorem isDecimal_formatChars (n : Nat) : IsDecimal (formatChars n) n := by
  have hwhole := isWhole_toDigits (n / 10 ^ 18)
  have hparts : n / 10 ^ 18 * 10 ^ 18 + n % 10 ^ 18 = n := Nat.div_add_mod' n _
  rw [formatChars_eq]
  by_cases hzero : n % 10 ^ 18 = 0
  · have hdecimal := hwhole.isDecimal
    rw [Nat.ofDigitChars_ten_toDigits] at hdecimal
    rw [if_pos hzero]
    rw [hzero, Nat.add_zero] at hparts
    rwa [hparts] at hdecimal
  · have hless : n % 10 ^ 18 < 10 ^ 18 := Nat.mod_lt _ (by decide)
    have hdecimal := hwhole.isDecimal_pointed (isPlaces_shownPlaces hless hzero)
    rw [Nat.ofDigitChars_ten_toDigits, ofDigitChars_shownPlaces hless, hparts] at hdecimal
    rwa [if_neg hzero]

theorem IsCanonical.exists_isDecimal (h : IsCanonical cs) : ∃ n, IsDecimal cs n := by
  cases h with
  | whole hwhole => exact ⟨_, hwhole.isDecimal⟩
  | pointed hwhole hplaces => exact ⟨_, hwhole.isDecimal_pointed hplaces⟩

/-- For an amount there is no other canonical text than the written one. -/
theorem IsCanonical.formatChars_of_isDecimal (h : IsCanonical cs) (hdecimal : IsDecimal cs n) :
    formatChars n = cs := by
  rw [formatChars_eq]
  cases h with
  | whole hwhole =>
    obtain rfl := hdecimal.unique hwhole.isDecimal
    rw [if_pos (Nat.mul_mod_left _ _), Nat.mul_div_cancel _ (by decide), hwhole.toDigits_eq]
  | pointed hwhole hplaces =>
    obtain rfl := hdecimal.unique (hwhole.isDecimal_pointed hplaces)
    have hparts : ∀ icx rest, rest < 10 ^ 18 → (icx * 10 ^ 18 + rest) / 10 ^ 18 = icx ∧
        (icx * 10 ^ 18 + rest) % 10 ^ 18 = rest := by
      intro icx rest hrest
      omega
    obtain ⟨hdiv, hmod⟩ := hparts (Nat.ofDigitChars 10 _ 0) _
      (ofDigitChars_mul_pow_lt hplaces.isDigit hplaces.length_le)
    rw [hdiv, hmod, if_neg hplaces.ne_zero, hplaces.shownPlaces_eq, hwhole.toDigits_eq]

theorem parse_format (amount : Loop) : parse (format amount) = .ok amount :=
  parse_ofList_eq_ok (isDecimal_formatChars amount.toNat)

/-- Written amounts have nothing superfluous and are read back as what they were, and there is no
other text of this kind for an amount. Two texts that are read are for the same amount just if it is
written the same, and no two amounts are. -/
theorem format_inverts_parse :
    (∀ amount, parse (format amount) = .ok amount ∧ IsCanonical (format amount).toList) ∧
      (∀ text amount, IsCanonical text.toList → parse text = .ok amount → format amount = text) ∧
      (∀ first second a b, parse first = .ok a → parse second = .ok b →
        (a = b ↔ format a = format b)) ∧
      Function.Injective format := by
  have hinjective : Function.Injective format := by
    intro a b h
    have hparse := parse_format a
    rw [h, parse_format b] at hparse
    exact (Except.ok.inj hparse).symm
  refine ⟨fun amount => ⟨parse_format amount, ?_⟩, ?_, fun _ _ _ _ _ _ => hinjective.eq_iff.symm,
    hinjective⟩
  · rw [format, String.toList_ofList]
    exact isCanonical_formatChars amount.toNat
  · intro text amount hcanonical hparse
    have hdecimal := parse_eq_ok_iff.mp hparse
    obtain ⟨n, hn⟩ := hcanonical.exists_isDecimal
    rw [Text.trimBlanks_eq_self hn.isBlank_eq_false] at hdecimal
    rw [format, hcanonical.formatChars_of_isDecimal hdecimal, String.ofList_toList]

theorem isCanonical_half : IsCanonical "0.5".toList :=
  @IsCanonical.pointed ['0'] ['5'] ⟨by decide, List.all_eq_true.mp rfl, by decide⟩
    ⟨by decide, List.all_eq_true.mp rfl, by decide, by simp⟩

/-- Half an ICX is given with more zeros than it is written with, and it is not written like one. -/
theorem format_inverts_parse_half :
    ∃ half one, parse "00.50" = .ok half ∧ parse "1." = .ok one ∧ format half = "0.5" ∧
      parse (format half) = .ok half ∧ format half ≠ format one := by
  obtain ⟨hback, hcanonical, hsame, -⟩ := format_inverts_parse
  have hwritten : parse "0.5" = .ok ⟨5 * 10 ^ 17, by decide⟩ := by
    apply parse_eq_ok
    exact @IsDecimal.pointed ['0'] ['5'] (by decide) (List.all_eq_true.mp rfl)
      (List.all_eq_true.mp rfl) (by decide)
  have hgiven : parse "00.50" = .ok ⟨5 * 10 ^ 17, by decide⟩ := by
    apply parse_eq_ok
    exact @IsDecimal.pointed ['0', '0'] ['5', '0'] (by decide) (List.all_eq_true.mp rfl)
      (List.all_eq_true.mp rfl) (by decide)
  have hone : parse "1." = .ok ⟨10 ^ 18, by decide⟩ := by
    apply parse_eq_ok
    exact @IsDecimal.pointed ['1'] [] (by decide) (List.all_eq_true.mp rfl)
      (List.all_eq_true.mp rfl) (by decide)
  refine ⟨_, _, hgiven, hone, hcanonical _ _ isCanonical_half hwritten, (hback _).1, ?_⟩
  rw [ne_eq, ← hsame _ _ _ _ hgiven hone]
  decide

end ScoreDeploy.Loop
