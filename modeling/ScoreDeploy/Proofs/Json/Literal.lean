import ScoreDeploy.Proofs.Json.Document
import Mathlib.Data.List.TakeWhile

/-!
# Where numbers end

Whatever a number literal denotes, and also if it is passed over, it is left at the same place:
behind its digits, its fraction and its exponent. An integer literal reaches a contract as the
numeral of its number if and only if a reader can hold it as an integer.
-/

namespace ScoreDeploy.Json

variable {cs rest tail : List Char} {negative : Bool} {significand value dropped : Nat}
variable {start exponent : Int} {n : Number}

/-! ### The end of a number -/

/-- What is left of a number behind an exponent that may come next. -/
def exponentEnd (cs : List Char) : List Char :=
  match cs with
  | 'e' :: rest => (exponentSign rest).2.dropWhile Char.isDigit
  | 'E' :: rest => (exponentSign rest).2.dropWhile Char.isDigit
  | _ => cs

/-- What is left of a number behind a fraction and an exponent that may come next. -/
def fractionEnd (cs : List Char) : List Char :=
  match cs with
  | '.' :: rest => exponentEnd (rest.dropWhile Char.isDigit)
  | _ => exponentEnd cs

theorem dropWhile_gather (limit value count : Nat) (cs : List Char) :
    (gather limit value count cs).2.2.dropWhile Char.isDigit = cs.dropWhile Char.isDigit := by
  induction cs generalizing value count with
  | nil => rfl
  | cons c cs ih =>
    rw [gather]
    by_cases hdigit : c.isDigit = true
    · rw [if_pos hdigit, List.dropWhile_cons_of_pos hdigit]
      dsimp only
      split_ifs
      · exact ih _ _
      · exact List.dropWhile_cons_of_pos hdigit
    · rw [if_neg hdigit]

theorem dropWhile_eq_self (h : startsWithDigit cs ≠ true) : cs.dropWhile Char.isDigit = cs := by
  cases cs with
  | nil => rfl
  | cons c cs => exact List.dropWhile_cons_of_neg h

theorem exponentEnd_of_ne (hlower : ∀ rest, cs ≠ 'e' :: rest) (hupper : ∀ rest, cs ≠ 'E' :: rest) :
    exponentEnd cs = cs := by
  unfold exponentEnd
  split
  · exact absurd rfl (hlower _)
  · exact absurd rfl (hupper _)
  · rfl

theorem fractionEnd_of_ne (hpoint : ∀ rest, cs ≠ '.' :: rest) :
    fractionEnd cs = exponentEnd cs := by
  unfold fractionEnd
  split
  · exact absurd rfl (hpoint _)
  · rfl

theorem exponentPart_leaves (h : exponentPart negative significand start cs = .ok (n, rest)) :
    rest = (exponentSign cs).2.dropWhile Char.isDigit := by
  rw [exponentPart_eq] at h
  generalize (exponentSign cs).2 = digits at h
  cases digits with
  | nil => cases h
  | cons c digits =>
    simp only [exponentDigits] at h
    rw [← dropWhile_gather exponentLimit 0 0 (c :: digits)]
    split_ifs at h with hdigit hmore hlarge hdown
    · exact (Prod.mk.inj (Except.ok.inj h)).2.symm
    all_goals
      rw [dropWhile_eq_self hmore]
      exact (eq_of_map_eq_ok h).2

theorem afterDigits_leaves (h : afterDigits negative significand exponent cs = .ok (n, rest)) :
    rest = exponentEnd cs := by
  by_cases hlower : ∃ rest, cs = 'e' :: rest
  · obtain ⟨cs, rfl⟩ := hlower
    exact exponentPart_leaves h
  by_cases hupper : ∃ rest, cs = 'E' :: rest
  · obtain ⟨cs, rfl⟩ := hupper
    exact exponentPart_leaves h
  rw [not_exists] at hlower hupper
  rw [afterDigits_of_ne hlower hupper] at h
  rw [exponentEnd_of_ne hlower hupper]
  exact (eq_of_map_eq_ok h).2

theorem fractionPart_leaves (h : fractionPart negative significand start cs = .ok (n, rest)) :
    rest = exponentEnd (cs.dropWhile Char.isDigit) := by
  simp only [fractionPart] at h
  rw [← dropWhile_gather significandLimit significand 0 cs]
  by_cases hmore : startsWithDigit (gather significandLimit significand 0 cs).2.2 = true
  · rw [if_pos hmore] at h
    exact afterDigits_leaves h
  · rw [if_neg hmore] at h
    rw [dropWhile_eq_self hmore]
    by_cases hnone : (gather significandLimit significand 0 cs).2.1 = 0
    · rw [if_pos hnone] at h
      cases h
    · rw [if_neg hnone] at h
      exact afterDigits_leaves h

theorem afterWhole_leaves (h : afterWhole negative value dropped cs = .ok (n, rest)) :
    rest = fractionEnd cs := by
  by_cases hpoint : ∃ rest, cs = '.' :: rest
  · obtain ⟨cs, rfl⟩ := hpoint
    exact fractionPart_leaves h
  rw [not_exists] at hpoint
  rw [fractionEnd_of_ne hpoint]
  by_cases hlower : ∃ rest, cs = 'e' :: rest
  · obtain ⟨cs, rfl⟩ := hlower
    exact exponentPart_leaves h
  by_cases hupper : ∃ rest, cs = 'E' :: rest
  · obtain ⟨cs, rfl⟩ := hupper
    exact exponentPart_leaves h
  rw [not_exists] at hlower hupper
  rw [afterWhole_of_ne hpoint hlower hupper] at h
  rw [exponentEnd_of_ne hlower hupper]
  exact (eq_of_map_eq_ok h).2

theorem numberBody_leaves (h : numberBody negative cs = .ok (n, rest)) :
    rest = fractionEnd (cs.dropWhile Char.isDigit) := by
  cases cs with
  | nil => cases h
  | cons c cs =>
    by_cases hzero : c = '0'
    · subst hzero
      simp only [numberBody] at h
      by_cases hmore : startsWithDigit cs = true
      · rw [if_pos hmore] at h
        cases h
      · rw [if_neg hmore] at h
        rw [List.dropWhile_cons_of_pos (by decide), dropWhile_eq_self hmore]
        exact afterWhole_leaves h
    · rw [numberBody] at h
      · by_cases hdigit : c.isDigit = true
        · rw [if_pos hdigit] at h
          rw [← dropWhile_gather significandLimit 0 0 (c :: cs)]
          exact afterWhole_leaves h
        · rw [if_neg hdigit] at h
          cases h
      · exact hzero

/-! ### Passing over a number -/

theorem skipDigits_leaves (h : skipDigits cs = .ok rest) : rest = cs.dropWhile Char.isDigit := by
  rw [skipDigits] at h
  split_ifs at h
  exact (Except.ok.inj h).symm

theorem skipExponent_leaves (h : skipExponent cs = .ok rest) : rest = exponentEnd cs := by
  cases cs with
  | nil => exact (Except.ok.inj h).symm
  | cons c cs =>
    have hdigits : (c = 'e' ∨ c = 'E') → skipDigits (exponentSign cs).2 = .ok rest := by
      intro hletter
      unfold skipExponent at h
      dsimp only at h
      rw [if_pos hletter] at h
      unfold exponentSign
      split at h <;> simp_all
    by_cases hlower : c = 'e'
    · subst hlower
      exact skipDigits_leaves (hdigits (.inl rfl))
    by_cases hupper : c = 'E'
    · subst hupper
      exact skipDigits_leaves (hdigits (.inr rfl))
    rw [exponentEnd_of_ne]
    · unfold skipExponent at h
      dsimp only at h
      rw [if_neg (not_or_intro hlower hupper)] at h
      exact (Except.ok.inj h).symm
    · exact fun _ heq => hlower (List.cons.inj heq).1
    · exact fun _ heq => hupper (List.cons.inj heq).1

theorem skipNumber_leaves (h : skipNumber cs = .ok rest) :
    rest = fractionEnd (cs.dropWhile Char.isDigit) := by
  have hafter : ∀ {middle : List Char}, (match middle with
      | '.' :: rest => do
        let digits ← skipDigits rest
        skipExponent digits
      | _ => skipExponent middle : Except Fault (List Char)) = .ok rest →
        rest = fractionEnd middle := by
    intro middle h
    by_cases hpoint : ∃ more, middle = '.' :: more
    · obtain ⟨more, rfl⟩ := hpoint
      obtain ⟨digits, hdigits, h⟩ := Except.bind_eq_ok_iff.mp h
      obtain rfl := skipDigits_leaves hdigits
      exact skipExponent_leaves h
    · rw [not_exists] at hpoint
      rw [fractionEnd_of_ne hpoint]
      split at h
      · exact absurd rfl (hpoint _)
      · exact skipExponent_leaves h
  unfold skipNumber at h
  dsimp only at h
  split at h
  · split_ifs at h with hmore
    · cases h
    · rw [List.dropWhile_cons_of_pos (by decide), dropWhile_eq_self hmore]
      exact hafter h
  · obtain ⟨middle, hdigits, h⟩ := Except.bind_eq_ok_iff.mp h
    rw [← skipDigits_leaves hdigits]
    exact hafter h

/-! ### Literals -/

theorem AreDigits.dropWhile_append {digits : List Char} (h : AreDigits digits) (cs : List Char) :
    (digits ++ cs).dropWhile Char.isDigit = cs.dropWhile Char.isDigit :=
  List.dropWhile_append_of_pos h.2

theorem areDigits_toDigits (k : Nat) : AreDigits (Nat.toDigits 10 k) := by
  obtain ⟨c, cs, hcons, -⟩ := exists_toDigits_eq_cons k
  refine ⟨by simp [hcons], fun c hc => ?_⟩
  exact Nat.isDigit_of_mem_toDigits (by decide) (by decide) hc

theorem exponentSign_sign {sign digits : List Char} (hsign : sign ∈ [[], ['+'], ['-']])
    (hdigits : AreDigits digits) :
    (exponentSign (sign ++ (digits ++ tail))).2 = digits ++ tail := by
  obtain ⟨hne, hall⟩ := hdigits
  obtain ⟨d, digits, rfl⟩ := List.exists_cons_of_ne_nil hne
  have hd : d.isDigit = true := hall d List.mem_cons_self
  simp only [List.mem_cons, List.not_mem_nil, or_false] at hsign
  rcases hsign with rfl | rfl | rfl
  · unfold exponentSign
    split
    · next heq => exact absurd hd (by rw [(List.cons.inj heq).1]; decide)
    · next heq => exact absurd hd (by rw [(List.cons.inj heq).1]; decide)
    · rfl
  · rfl
  · rfl

/-- What stands here is an exponent, or what does not continue the number. -/
theorem EndsNumber.startsWithDigit_exponent {exponent : List Char} (h : EndsNumber tail)
    (hexponent : IsExponent exponent) : startsWithDigit (exponent ++ tail) ≠ true := by
  cases hexponent with
  | none =>
    rw [h.startsWithDigit_append]
    decide
  | some hletter => rcases hletter with rfl | rfl <;> simp [startsWithDigit]

theorem EndsNumber.exponentEnd_exponent {exponent : List Char} (h : EndsNumber tail)
    (hexponent : IsExponent exponent) : exponentEnd (exponent ++ tail) = tail := by
  have htail : tail.dropWhile Char.isDigit = tail := h.dropWhile_append []
  cases hexponent with
  | none => exact exponentEnd_of_ne (h.ne_cons (by simp)) (h.ne_cons (by simp))
  | some hletter hsign hdigits =>
    rw [List.cons_append, List.append_assoc]
    rcases hletter with rfl | rfl
    all_goals
      rw [exponentEnd, exponentSign_sign hsign hdigits, hdigits.dropWhile_append, htail]

/-- The digits, the fraction and the exponent are all that belongs to a number. -/
theorem EndsNumber.fractionEnd_literal {fraction exponent : List Char} (h : EndsNumber tail)
    (k : Nat) (hfraction : IsFraction fraction) (hexponent : IsExponent exponent) :
    fractionEnd ((Nat.toDigits 10 k ++ (fraction ++ (exponent ++ tail))).dropWhile Char.isDigit) =
      tail := by
  have hdrop := dropWhile_eq_self (h.startsWithDigit_exponent hexponent)
  rw [(areDigits_toDigits k).dropWhile_append]
  cases hfraction with
  | none =>
    rw [List.nil_append, hdrop, fractionEnd_of_ne]
    · exact h.exponentEnd_exponent hexponent
    · intro rest hcons
      cases hexponent with
      | none => exact h.ne_cons (.inl rfl) rest hcons
      | some hletter => rcases hletter with rfl | rfl <;> cases hcons
  | some hdigits =>
    rw [List.cons_append, List.dropWhile_cons_of_neg (by decide), fractionEnd,
      hdigits.dropWhile_append, hdrop]
    exact h.exponentEnd_exponent hexponent

theorem scalar_signChars (negative : Bool) (k : Nat) (cs : List Char) :
    scalar (signChars negative ++ (Nat.toDigits 10 k ++ cs)) =
      (numberBody negative (Nat.toDigits 10 k ++ cs)).map fun p => (.number p.1, p.2) := by
  obtain ⟨c, digits, hcons, hdigit, -⟩ := exists_toDigits_eq_cons k
  rw [hcons]
  cases negative with
  | true =>
    rw [signChars, if_pos rfl, List.singleton_append, scalar]
    cases numberBody true (c :: digits ++ cs) <;> rfl
  | false =>
    rw [signChars, if_neg (by decide), List.nil_append, List.cons_append, scalar, if_pos hdigit]
    · cases numberBody false (c :: (digits ++ cs)) <;> rfl
    all_goals
      rintro rfl
      exact absurd hdigit (by decide)

/-- A number literal is read as a number if at all, and nothing of it is left. -/
theorem scalar_leaves {fraction exponent : List Char} {json : Json} {k : Nat}
    (hfraction : IsFraction fraction) (hexponent : IsExponent exponent) (hends : EndsNumber tail)
    (h : scalar (signChars negative ++ (Nat.toDigits 10 k ++ (fraction ++ (exponent ++ tail)))) =
      .ok (json, rest)) : rest = tail ∧ ∃ n, json = .number n := by
  rw [scalar_signChars] at h
  cases hbody : numberBody negative (Nat.toDigits 10 k ++ (fraction ++ (exponent ++ tail))) with
  | error f =>
    rw [hbody] at h
    cases h
  | ok result =>
    rw [hbody] at h
    obtain ⟨rfl, rfl⟩ := Prod.mk.inj (Except.ok.inj h)
    refine ⟨?_, result.1, rfl⟩
    rw [numberBody_leaves hbody, hends.fractionEnd_literal k hfraction hexponent]

theorem skipScalar_signChars (negative : Bool) (k : Nat) (cs : List Char) :
    skipScalar (signChars negative ++ (Nat.toDigits 10 k ++ cs)) =
      skipNumber (Nat.toDigits 10 k ++ cs) := by
  obtain ⟨c, digits, hcons, hdigit, -⟩ := exists_toDigits_eq_cons k
  rw [hcons]
  cases negative with
  | true => rfl
  | false =>
    rw [signChars, if_neg (by decide), List.nil_append, List.cons_append, skipScalar, if_pos hdigit]
    all_goals
      rintro rfl
      exact absurd hdigit (by decide)

theorem skipScalar_leaves {fraction exponent : List Char} {k : Nat}
    (hfraction : IsFraction fraction) (hexponent : IsExponent exponent) (hends : EndsNumber tail)
    (h : skipScalar (signChars negative ++
      (Nat.toDigits 10 k ++ (fraction ++ (exponent ++ tail)))) = .ok rest) : rest = tail := by
  rw [skipScalar_signChars] at h
  rw [skipNumber_leaves h, hends.fractionEnd_literal k hfraction hexponent]

/-! ### Integer literals -/

theorem gather_lt {limit count : Nat} (hvalue : value < limit) (cs : List Char) :
    (gather limit value count cs).1 < limit := by
  induction cs generalizing value count with
  | nil => exact hvalue
  | cons c cs ih =>
    rw [gather]
    dsimp only
    split_ifs with hdigit hnext
    · exact ih hnext
    · exact hvalue
    · exact hvalue

theorem ofDigitChars_of_gather {limit count all taken : Nat}
    (h : gather limit value count cs = (all, taken, [])) : Nat.ofDigitChars 10 cs value = all := by
  induction cs generalizing value count with
  | nil => exact (Prod.mk.inj h).1
  | cons c cs ih =>
    rw [gather] at h
    dsimp only at h
    split_ifs at h
    · rw [Nat.ofDigitChars_cons, Nat.mul_comm 10]
      exact ih h
    · cases (Prod.mk.inj (Prod.mk.inj h).2).2
    · cases (Prod.mk.inj (Prod.mk.inj h).2).2

/-- Not all digits of a number beyond the limit are gathered. -/
theorem gather_toDigits_ne_nil {limit k : Nat} (hlimit : 0 < limit) (hk : limit ≤ k) :
    (gather limit 0 0 (Nat.toDigits 10 k)).2.2 ≠ [] := by
  intro hnil
  have hgather : gather limit 0 0 (Nat.toDigits 10 k) = ((gather limit 0 0 (Nat.toDigits 10 k)).1,
      (gather limit 0 0 (Nat.toDigits 10 k)).2.1, []) := by
    rw [← hnil]
  have hall := ofDigitChars_of_gather hgather
  rw [Nat.ofDigitChars_toDigits (by decide) (by decide)] at hall
  have hlt : (gather limit 0 0 (Nat.toDigits 10 k)).1 < limit := gather_lt hlimit _
  omega

/-- All of an integer literal belongs to the number. -/
theorem numberBody_literal (h : EndsNumber tail) (negative : Bool) (k : Nat) :
    numberBody negative (Nat.toDigits 10 k ++ tail) =
      (Document.literalNumber negative k).map (·, tail) := by
  have hafter : ∀ value dropped, afterWhole negative value dropped tail =
      (if dropped = 0 then whole negative value else float negative value dropped).map (·, tail) :=
    fun _ _ => afterWhole_of_ne (h.ne_cons (by simp)) (h.ne_cons (by simp)) (h.ne_cons (by simp))
  have hlimit : 0 < significandLimit := by decide
  obtain ⟨c, digits, hcons, hdigit, hzero⟩ := exists_toDigits_eq_cons k
  by_cases hc : c = '0'
  · obtain ⟨rfl, rfl⟩ := hzero hc
    have hnext : startsWithDigit tail = false := h.startsWithDigit_append []
    rw [hcons, hc, List.singleton_append, numberBody, hnext, if_neg (by decide), hafter, if_pos rfl,
      Document.literalNumber, if_pos hlimit]
  · -- What was not gathered are digits again; their count is all that the number keeps of them.
    have hgathered : ∀ d ∈ (gather significandLimit 0 0 (Nat.toDigits 10 k)).2.2,
        d.isDigit = true := fun d hd =>
      (areDigits_toDigits k).2 d ((suffix_gather _ _ _ _).mem hd)
    have hbody : numberBody negative (Nat.toDigits 10 k ++ tail) =
        afterWhole negative (gather significandLimit 0 0 (Nat.toDigits 10 k)).1
          (gather significandLimit 0 0 (Nat.toDigits 10 k)).2.2.length tail := by
      rw [hcons, List.cons_append, numberBody, if_pos hdigit, ← List.cons_append, ← hcons,
        h.gather_append]
      · simp only [h.takeWhile_append, h.dropWhile_append]
        rw [List.takeWhile_eq_self_iff.mpr hgathered, List.dropWhile_eq_nil_iff.mpr hgathered,
          List.nil_append]
      · exact hc
    rw [hbody, hafter, Document.literalNumber]
    by_cases hk : k < significandLimit
    · rw [if_pos hk, gather_toDigits hk, List.length_nil, if_pos rfl]
    · have hne : (gather significandLimit 0 0 (Nat.toDigits 10 k)).2.2.length ≠ 0 := by
        rw [Ne, List.length_eq_zero_iff]
        exact gather_toDigits_ne_nil hlimit (Nat.le_of_not_lt hk)
      rw [if_neg hk, if_neg hne]

theorem float_eq_ok {n : Number} (h : float negative significand exponent = .ok n) :
    ∃ x, n = .float x := by
  obtain ⟨count, -, hn⟩ := Except.bind_eq_ok_iff.mp h
  obtain rfl := Except.ok.inj hn
  exact ⟨_, rfl⟩

theorem literalNumber_of_fitsInteger {k : Nat} (h : Document.FitsInteger negative k) :
    Document.literalNumber negative k =
      .ok (.integer ⟨Document.integerValue negative k, h.1, h.2.1⟩) := by
  obtain ⟨hlower, hupper, hzero⟩ := h
  have hk : k < significandLimit := by
    rw [Document.integerValue] at hlower hupper
    change k < 18446744073709551616
    split_ifs at hlower hupper <;> omega
  have hsome : Integer.ofInt? (Document.integerValue negative k) =
      some ⟨Document.integerValue negative k, hlower, hupper⟩ := dif_pos ⟨hlower, hupper⟩
  rw [Document.literalNumber, if_pos hk, whole, if_neg hzero, ← Document.integerValue, hsome]

/-- A literal that does not fit is read as a float. -/
theorem literalNumber_of_not_fitsInteger {k : Nat} {n : Number}
    (h : ¬Document.FitsInteger negative k) (hn : Document.literalNumber negative k = .ok n) :
    n = .float (Document.literalFloat negative k) := by
  suffices ∃ x, n = .float x by
    obtain ⟨x, rfl⟩ := this
    rw [Document.literalFloat, hn]
  rw [Document.literalNumber] at hn
  split_ifs at hn with hk
  · rw [whole] at hn
    by_cases hzero : negative = true ∧ k = 0
    · rw [if_pos hzero] at hn
      exact ⟨_, (Except.ok.inj hn).symm⟩
    · have hnone : Integer.ofInt? (Document.integerValue negative k) = none :=
        dif_neg fun hbounds => h ⟨hbounds.1, hbounds.2, hzero⟩
      rw [Document.integerValue] at hnone
      rw [if_neg hzero, hnone] at hn
      exact float_eq_ok hn
  · exact float_eq_ok hn

/-- An integer literal reaches a contract as its text. -/
theorem wireValue_literal {k : Nat} {json : Json} (hends : EndsNumber tail)
    (h : scalar (signChars negative ++ (Nat.toDigits 10 k ++ tail)) = .ok (json, rest)) :
    Params.wireValue json = .string (Document.literalText negative k) := by
  rw [scalar_signChars, numberBody_literal hends] at h
  cases hnumber : Document.literalNumber negative k with
  | error f =>
    rw [hnumber] at h
    cases h
  | ok n =>
    rw [hnumber] at h
    obtain ⟨rfl, -⟩ := Prod.mk.inj (Except.ok.inj h)
    rw [Params.wireValue, Document.literalText]
    by_cases hfits : Document.FitsInteger negative k
    · rw [literalNumber_of_fitsInteger hfits] at hnumber
      obtain rfl := Except.ok.inj hnumber
      rw [if_pos hfits, Params.numberText, Document.integerText_eq_hexNumeral]
    · rw [literalNumber_of_not_fitsInteger hfits hnumber, if_neg hfits, Params.numberText]

/-- No other literal reaches a contract as the numeral of its number. -/
theorem literalText_eq_hexNumeral_iff (negative : Bool) (k : Nat) :
    Document.literalText negative k = Document.hexNumeral (Document.integerValue negative k) ↔
      Document.FitsInteger negative k := by
  rw [Document.literalText]
  split_ifs with hfits
  · exact iff_of_true rfl hfits
  · refine iff_of_false (fun htext => ?_) hfits
    -- The numeral has an `x` after its zero, and no text of a float has one.
    have hmark : 'x' ∈ (Document.literalFloat negative k).text.toList := by
      rw [htext, Document.hexNumeral, String.toList_append]
      split_ifs <;> simp
    rcases forall_mem_text _ _ hmark with hdigit | hsign
    · exact absurd hdigit (by decide)
    · exact absurd hsign (by decide)

end ScoreDeploy.Json
