import ScoreDeploy.Amount
import ScoreDeploy.Proofs.Except
import ScoreDeploy.Proofs.Guarded
import ScoreDeploy.Proofs.Text.Numeral
import ScoreDeploy.Proofs.Text.Trimming

/-!
# What is read as an amount

`IsDecimal` says which texts are decimal numbers of ICX, and how many loop each of them is. `parse`
reads these and nothing else, as far as the amount is a quantity, with blanks around them. It
computes the amount without regard to the size of numbers; `guardedParse` does it in 128 bits, step
by step, and comes to the same result.
-/

namespace ScoreDeploy

/-! ### Arithmetic in 128 bits -/

namespace Quantity

/-- A power, if it fits. -/
def power? (base exponent : Nat) : Option Quantity :=
  ofNat? (base ^ exponent)

/-- A product, if it fits. -/
def product? (a b : Quantity) : Option Quantity :=
  ofNat? (a.toNat * b.toNat)

/-- A sum, if it fits. -/
def sum? (a b : Quantity) : Option Quantity :=
  ofNat? (a.toNat + b.toNat)

theorem ofNat?_of_lt {n : Nat} (h : n < limit) : ofNat? n = some ⟨n, h⟩ :=
  dif_pos h

theorem ofNat?_of_le {n : Nat} (h : limit ≤ n) : ofNat? n = none :=
  dif_neg (Nat.not_lt.mpr h)

end Quantity

namespace Loop

variable {input text : String} {cs digits whole fraction part : List Char} {n : Nat}
variable {amount : Loop}

/-! ### Decimal numbers -/

/-- The text is a decimal number of ICX with at most eighteen places, and the amount in loop. Digits
may be missing before the point or behind it, but not both. -/
inductive IsDecimal : List Char → Nat → Prop
  | whole {digits : List Char} : digits ≠ [] → (∀ c ∈ digits, c.isDigit = true) →
      IsDecimal digits (Nat.ofDigitChars 10 digits 0 * 10 ^ 18)
  | pointed {whole fraction : List Char} : whole ≠ [] ∨ fraction ≠ [] →
      (∀ c ∈ whole, c.isDigit = true) → (∀ c ∈ fraction, c.isDigit = true) →
      fraction.length ≤ 18 →
      IsDecimal (whole ++ '.' :: fraction)
        (Nat.ofDigitChars 10 whole 0 * 10 ^ 18 +
          Nat.ofDigitChars 10 fraction 0 * 10 ^ (18 - fraction.length))

/-- Zeros in front do not count. -/
theorem IsDecimal.zeros_append (h : IsDecimal cs n) (count : Nat) :
    IsDecimal (List.replicate count '0' ++ cs) n := by
  have hzeros : ∀ {digits : List Char}, (∀ c ∈ digits, c.isDigit = true) →
      (∀ c ∈ List.replicate count '0' ++ digits, c.isDigit = true) ∧
        Nat.ofDigitChars 10 digits 0 =
          Nat.ofDigitChars 10 (List.replicate count '0' ++ digits) 0 := by
    intro digits hdigits
    have hdenotes := Numeral.denotes_ten_iff.mpr ⟨hdigits, rfl⟩
    exact Numeral.denotes_ten_iff.mp (hdenotes.zeros_append count)
  cases h with
  | whole hne hdigits =>
    obtain ⟨hall, hvalue⟩ := hzeros hdigits
    rw [hvalue]
    exact .whole (by simp [hne]) hall
  | pointed hne hwhole hfraction hplaces =>
    obtain ⟨hall, hvalue⟩ := hzeros hwhole
    rw [← List.append_assoc, hvalue]
    exact .pointed (hne.imp_left (by simp +contextual)) hall hfraction hplaces

/-! ### Parts -/

theorem bne_point_of_mem (h : '.' ∉ cs) : ∀ c ∈ cs, (c != '.') = true := by
  intro c hc
  rw [bne_iff_ne]
  exact ne_of_mem_of_not_mem hc h

theorem splitAtPoint_of_not_mem (h : '.' ∉ cs) : splitAtPoint cs = (cs, []) := by
  have hall := bne_point_of_mem h
  rw [splitAtPoint, List.takeWhile_eq_self_iff.mpr hall, List.dropWhile_eq_nil_iff.mpr hall]
  rfl

theorem splitAtPoint_append (h : '.' ∉ whole) (fraction : List Char) :
    splitAtPoint (whole ++ '.' :: fraction) = (whole, fraction) := by
  have hall := bne_point_of_mem h
  rw [splitAtPoint, List.takeWhile_append_of_pos hall, List.dropWhile_append_of_pos hall]
  simp

theorem not_mem_of_isDigit (h : ∀ c ∈ cs, c.isDigit = true) : '.' ∉ cs := by
  intro hpoint
  exact absurd (h _ hpoint) (by decide)

theorem eq_of_splitAtPoint (h : splitAtPoint cs = (whole, fraction)) :
    cs = whole ++ '.' :: fraction ∨ cs = whole ∧ fraction = [] := by
  by_cases hpoint : '.' ∈ cs
  · obtain ⟨front, back, rfl, hnot⟩ := List.eq_append_cons_of_mem hpoint
    rw [splitAtPoint_append hnot] at h
    obtain ⟨rfl, rfl⟩ := Prod.mk.inj h
    exact .inl rfl
  · rw [splitAtPoint_of_not_mem hpoint] at h
    obtain ⟨rfl, rfl⟩ := Prod.mk.inj h
    exact .inr ⟨rfl, rfl⟩

theorem isDecimal_iff_of_splitAtPoint (h : splitAtPoint cs = (whole, fraction)) :
    IsDecimal cs n ↔ (whole ≠ [] ∨ fraction ≠ []) ∧
      (∀ c ∈ whole, c.isDigit = true) ∧ (∀ c ∈ fraction, c.isDigit = true) ∧
      fraction.length ≤ 18 ∧
      n = Nat.ofDigitChars 10 whole 0 * 10 ^ 18 +
        Nat.ofDigitChars 10 fraction 0 * 10 ^ (18 - fraction.length) := by
  constructor
  · intro hdecimal
    cases hdecimal with
    | whole hne hdigits =>
      rw [splitAtPoint_of_not_mem (not_mem_of_isDigit hdigits)] at h
      obtain ⟨rfl, rfl⟩ := Prod.mk.inj h
      exact ⟨.inl hne, hdigits, by simp, by simp, by simp⟩
    | pointed hne hwhole hfraction hplaces =>
      rw [splitAtPoint_append (not_mem_of_isDigit hwhole)] at h
      obtain ⟨rfl, rfl⟩ := Prod.mk.inj h
      exact ⟨hne, hwhole, hfraction, hplaces, rfl⟩
  · rintro ⟨hne, hwhole, hfraction, hplaces, rfl⟩
    rcases eq_of_splitAtPoint h with rfl | ⟨rfl, rfl⟩
    · exact .pointed hne hwhole hfraction hplaces
    · simpa using IsDecimal.whole (by simpa using hne) hwhole

/-- A text denotes at most one amount. -/
theorem IsDecimal.unique {m : Nat} (hn : IsDecimal cs n) (hm : IsDecimal cs m) : n = m := by
  obtain ⟨-, -, -, -, hn⟩ := (isDecimal_iff_of_splitAtPoint rfl).mp hn
  obtain ⟨-, -, -, -, hm⟩ := (isDecimal_iff_of_splitAtPoint rfl).mp hm
  rw [hn, hm]

theorem utf8ByteSize_of_isDigit (h : ∀ c ∈ cs, c.isDigit = true) :
    (String.ofList cs).utf8ByteSize = cs.length := by
  induction cs with
  | nil => rfl
  | cons c cs ih =>
    obtain ⟨hc, hcs⟩ := List.forall_mem_cons.mp h
    obtain ⟨d, hd, rfl⟩ := Numeral.exists_digitChar_eq hc
    have hone : ∀ d < 10, (Nat.digitChar d).utf8Size = 1 := by decide
    rw [String.ofList_cons, String.utf8ByteSize_append, String.utf8ByteSize_singleton, hone d hd,
      ih hcs, List.length_cons, Nat.add_comm]

theorem readPart_eq_ok_iff :
    readPart text part = .ok n ↔ (∀ c ∈ part, c.isDigit = true) ∧
      n = Nat.ofDigitChars 10 part 0 ∧ n < Quantity.limit := by
  rw [readPart]
  by_cases hall : part.all Char.isDigit = true
  · rw [if_neg (not_not_intro hall)]
    rw [List.all_eq_true] at hall
    by_cases hnil : part = []
    · subst hnil
      rw [if_pos (by rfl), Except.ok.injEq, Nat.ofDigitChars_nil]
      constructor
      · rintro rfl
        exact ⟨by simp, rfl, by decide⟩
      · rintro ⟨-, rfl, -⟩
        rfl
    · rw [if_neg (by simpa using hnil), Except.mapError_eq_ok_iff,
        Numeral.read_eq_ok_iff (by decide) (by decide) (by decide)]
      constructor
      · rintro ⟨sign, digits, rfl, rfl | rfl, hne, hdenotes, hlt⟩
        · obtain ⟨-, hvalue⟩ := Numeral.denotes_ten_iff.mp hdenotes
          exact ⟨hall, hvalue, hlt⟩
        · exact absurd (hall '+' (by simp)) (by decide)
      · rintro ⟨-, hvalue, hlt⟩
        exact ⟨[], part, rfl, .inl rfl, hnil, Numeral.denotes_ten_iff.mpr ⟨hall, hvalue⟩, hlt⟩
  · rw [if_pos hall]
    refine iff_of_false (by simp) ?_
    rintro ⟨hdigits, -⟩
    exact hall (List.all_eq_true.mpr hdigits)

/-- Eighteen places take less than an ICX. -/
theorem ofDigitChars_mul_pow_lt (h : ∀ c ∈ fraction, c.isDigit = true)
    (hplaces : fraction.length ≤ 18) :
    Nat.ofDigitChars 10 fraction 0 * 10 ^ (18 - fraction.length) < 10 ^ 18 := by
  have hdenotes := Numeral.denotes_ten_iff.mpr ⟨h, rfl⟩
  calc Nat.ofDigitChars 10 fraction 0 * 10 ^ (18 - fraction.length)
      < 10 ^ fraction.length * 10 ^ (18 - fraction.length) :=
        Nat.mul_lt_mul_of_pos_right (hdenotes.lt_pow (by decide)) (Nat.pow_pos (by decide))
    _ = 10 ^ 18 := by rw [← Nat.pow_add, Nat.add_sub_cancel' hplaces]

/-- A text that was split is read part by part. -/
theorem parse_eq_ok_iff_parts
    (h : splitAtPoint (Text.trimBlanks input.toList) = (whole, fraction)) :
    parse input = .ok amount ↔ (whole ≠ [] ∨ fraction ≠ []) ∧
      (∀ c ∈ whole, c.isDigit = true) ∧ (∀ c ∈ fraction, c.isDigit = true) ∧
      fraction.length ≤ 18 ∧
      amount.toNat = Nat.ofDigitChars 10 whole 0 * 10 ^ 18 +
        Nat.ofDigitChars 10 fraction 0 * 10 ^ (18 - fraction.length) := by
  rw [parse, h]
  dsimp only
  by_cases hempty : whole.isEmpty = true ∧ fraction.isEmpty = true
  · rw [if_pos hempty]
    refine iff_of_false (fun hok => by cases hok) ?_
    rintro ⟨hne, -⟩
    simp_all
  rw [if_neg hempty]
  by_cases hlong : places < (String.ofList fraction).utf8ByteSize
  · rw [if_pos hlong]
    refine iff_of_false (fun hok => by cases hok) ?_
    rintro ⟨-, -, hfraction, hplaces, -⟩
    rw [utf8ByteSize_of_isDigit hfraction, places] at hlong
    omega
  rw [if_neg hlong, Except.bind_eq_ok_iff]
  have hscale : ∀ icx rest, icx * perIcx + rest * Nat.pow 10 (places - fraction.length) =
      icx * 10 ^ 18 + rest * 10 ^ (18 - fraction.length) := fun _ _ => rfl
  constructor
  · rintro ⟨icx, hicx, h⟩
    obtain ⟨rest, hrest, h⟩ := Except.bind_eq_ok_iff.mp h
    obtain ⟨hwhole, rfl, -⟩ := readPart_eq_ok_iff.mp hicx
    obtain ⟨hfraction, rfl, -⟩ := readPart_eq_ok_iff.mp hrest
    rw [utf8ByteSize_of_isDigit hfraction, places] at hlong
    have hne : whole ≠ [] ∨ fraction ≠ [] := by
      simpa [imp_iff_not_or] using hempty
    refine ⟨hne, hwhole, hfraction, by omega, ?_⟩
    rw [hscale] at h
    split at h
    · next total htotal =>
      obtain rfl : total = amount := Except.ok.inj h
      exact Quantity.toNat_of_ofNat? htotal
    · cases h
  · rintro ⟨-, hwhole, hfraction, hplaces, htotal⟩
    -- Neither part exceeds the amount, so each is a quantity by itself.
    have hlimit := amount.toNat_lt
    have hless := ofDigitChars_mul_pow_lt hfraction hplaces
    have hicx : readPart (String.ofList (Text.trimBlanks input.toList)) whole =
        .ok (Nat.ofDigitChars 10 whole 0) := by
      refine readPart_eq_ok_iff.mpr ⟨hwhole, rfl, ?_⟩
      omega
    have hrest : readPart (String.ofList (Text.trimBlanks input.toList)) fraction =
        .ok (Nat.ofDigitChars 10 fraction 0) := by
      refine readPart_eq_ok_iff.mpr ⟨hfraction, rfl, ?_⟩
      have hpos : 1 ≤ 10 ^ (18 - fraction.length) := Nat.one_le_pow _ _ (by decide)
      have hle := Nat.le_mul_of_pos_right (Nat.ofDigitChars 10 fraction 0) hpos
      simp only [Quantity.limit]
      omega
    refine ⟨_, hicx, Except.bind_eq_ok_iff.mpr ⟨_, hrest, ?_⟩⟩
    rw [hscale, ← htotal, Quantity.ofNat?_toNat]
    rfl

/-- What is read are the decimal numbers, and they are read as what they are. -/
theorem parse_eq_ok_iff :
    parse input = .ok amount ↔ IsDecimal (Text.trimBlanks input.toList) amount.toNat :=
  (parse_eq_ok_iff_parts rfl).trans (isDecimal_iff_of_splitAtPoint rfl).symm

/-- A decimal number has no blanks. -/
theorem IsDecimal.isBlank_eq_false (h : IsDecimal cs n) : ∀ c ∈ cs, Text.isBlank c = false := by
  have hdigit : ∀ {c : Char}, c.isDigit = true → Text.isBlank c = false := by
    intro c hc
    obtain ⟨d, hd, rfl⟩ := Numeral.exists_digitChar_eq hc
    have hnone : ∀ d < 10, Text.isBlank (Nat.digitChar d) = false := by decide
    exact hnone d hd
  intro c hc
  cases h with
  | whole _ hdigits => exact hdigit (hdigits c hc)
  | pointed _ hwhole hfraction _ =>
    rcases List.mem_append.mp hc with hc | hc
    · exact hdigit (hwhole c hc)
    · rcases List.mem_cons.mp hc with rfl | hc
      · rfl
      · exact hdigit (hfraction c hc)

theorem parse_eq_ok (h : IsDecimal text.toList amount.toNat) : parse text = .ok amount := by
  rw [parse_eq_ok_iff, Text.trimBlanks_eq_self h.isBlank_eq_false]
  exact h

theorem parse_ofList_eq_ok (h : IsDecimal cs amount.toNat) :
    parse (String.ofList cs) = .ok amount :=
  parse_eq_ok (by rwa [String.toList_ofList])

/-! ### The computation in 128 bits -/

/-- The loop in one ICX. -/
def oneIcx : Quantity := ⟨perIcx, by decide⟩

/-- The amount of both parts, if the products and their sum fit. -/
def total? (icx rest scale : Quantity) : Option Loop := do
  let whole ← Quantity.product? icx oneIcx
  let fraction ← Quantity.product? rest scale
  Quantity.sum? fraction whole

/-- The amount that a text denotes, computed in 128 bits. The places that are left and the power of
ten for them are formed without a check; a product or a sum that does not fit is an error. -/
def guardedParse (input : String) : Guarded Error Loop := do
  let cs := Text.trimBlanks input.toList
  let text := String.ofList cs
  let (whole, fraction) := splitAtPoint cs
  if whole.isEmpty ∧ fraction.isEmpty then throw .empty
  let given := (String.ofList fraction).utf8ByteSize
  if places < given then throw (.tooPrecise text)
  let left ← Guarded.sure (if given ≤ places then some (places - given) else none)
  let scale ← Guarded.sure (Quantity.power? 10 left)
  let icx ← Guarded.sure (Quantity.ofNat? (← Guarded.step (readPart text whole)))
  let rest ← Guarded.sure (Quantity.ofNat? (← Guarded.step (readPart text fraction)))
  match total? icx rest scale with
  | some amount => return amount
  | none => throw (.outOfRange text)

theorem bind_sum? {fraction : Nat} (h : fraction < Quantity.limit) (whole : Nat) :
    (Quantity.ofNat? whole >>= fun a => some ⟨fraction, h⟩ >>= fun b => Quantity.sum? b a) =
      Quantity.ofNat? (whole + fraction) := by
  by_cases hwhole : whole < Quantity.limit
  · rw [Quantity.ofNat?_of_lt hwhole, Nat.add_comm]
    rfl
  · have hwhole : Quantity.limit ≤ whole := Nat.le_of_not_lt hwhole
    rw [Quantity.ofNat?_of_le hwhole, Quantity.ofNat?_of_le (hwhole.trans (Nat.le_add_right _ _))]
    rfl

theorem total?_eq {icx rest scale : Nat} (hicx : icx < Quantity.limit)
    (hrest : rest < Quantity.limit) (hscale : scale < Quantity.limit)
    (hless : rest * scale < Quantity.limit) :
    total? ⟨icx, hicx⟩ ⟨rest, hrest⟩ ⟨scale, hscale⟩ =
      Quantity.ofNat? (icx * perIcx + rest * scale) := by
  rw [total?, Quantity.product?, Quantity.product?, Quantity.ofNat?_of_lt hless]
  exact bind_sum? hless (icx * perIcx)

/-- No step of the computation in 128 bits goes wrong, and it comes to the same result. -/
theorem run_guardedParse (input : String) : (guardedParse input).run = some (parse input) := by
  rw [guardedParse, parse]
  rcases splitAtPoint (Text.trimBlanks input.toList) with ⟨whole, fraction⟩
  dsimp only
  by_cases hempty : whole.isEmpty = true ∧ fraction.isEmpty = true
  · rw [if_pos hempty, if_pos hempty]
    rfl
  rw [if_neg hempty, if_neg hempty]
  by_cases hlong : places < (String.ofList fraction).utf8ByteSize
  · rw [if_pos hlong, if_pos hlong]
    rfl
  have hgiven : (String.ofList fraction).utf8ByteSize ≤ places := Nat.le_of_not_lt hlong
  have hpower : 10 ^ (places - (String.ofList fraction).utf8ByteSize) < Quantity.limit :=
    calc 10 ^ (places - (String.ofList fraction).utf8ByteSize) ≤ 10 ^ places :=
          Nat.pow_le_pow_right (by decide) (Nat.sub_le _ _)
      _ < Quantity.limit := by decide
  have hscale : Quantity.power? 10 (places - (String.ofList fraction).utf8ByteSize) =
      some ⟨_, hpower⟩ := Quantity.ofNat?_of_lt hpower
  rw [if_neg hlong, if_neg hlong, Guarded.sure_bind (if_pos hgiven), Guarded.sure_bind hscale]
  refine Guarded.run_step_bind fun icx hicx => ?_
  obtain ⟨-, -, hicx⟩ := readPart_eq_ok_iff.mp hicx
  rw [Guarded.sure_bind (Quantity.ofNat?_of_lt hicx)]
  refine Guarded.run_step_bind fun rest hrest => ?_
  obtain ⟨hfraction, hvalue, hrest⟩ := readPart_eq_ok_iff.mp hrest
  rw [Guarded.sure_bind (Quantity.ofNat?_of_lt hrest)]
  -- The places are counted in bytes, and digits are one byte each.
  have hlength := utf8ByteSize_of_isDigit hfraction
  have hsame : Nat.pow 10 (places - fraction.length) =
      10 ^ (places - (String.ofList fraction).utf8ByteSize) := by
    rw [hlength]
    rfl
  have hless : rest * 10 ^ (places - (String.ofList fraction).utf8ByteSize) < Quantity.limit := by
    rw [hvalue, hlength]
    calc Nat.ofDigitChars 10 fraction 0 * 10 ^ (18 - fraction.length) < 10 ^ 18 :=
          ofDigitChars_mul_pow_lt hfraction (hlength ▸ hgiven)
      _ < Quantity.limit := by decide
  rw [hsame, total?_eq hicx hrest hpower hless]
  generalize Quantity.ofNat? _ = amount
  cases amount with
  | none => rfl
  | some amount => rfl

/-! ### All texts -/

/-- Of what is left between the blanks, the decimal numbers below `2 ^ 128` loop are read, as
exactly the amount that they denote, and all else is an error. Any number of zeros may be in front.
Computed in 128 bits the result is the same, so no power, product or sum on the way to an amount is
too large. -/
theorem parse_takes_decimals (input : String) :
    ∃ text, Text.IsTrimmed input.toList text ∧
      (∀ n, (∃ amount, parse input = .ok amount ∧ amount.toNat = n) ↔
        IsDecimal text n ∧ n < 2 ^ 128) ∧
      ((∃ e, parse input = .error e) ↔ ∀ n, IsDecimal text n → 2 ^ 128 ≤ n) ∧
      (∀ count amount, parse input = .ok amount →
        parse (String.ofList (List.replicate count '0' ++ text)) = .ok amount) ∧
      (guardedParse input).run = some (parse input) := by
  have htakes : ∀ n, (∃ amount, parse input = .ok amount ∧ amount.toNat = n) ↔
      IsDecimal (Text.trimBlanks input.toList) n ∧ n < Quantity.limit := by
    intro n
    constructor
    · rintro ⟨amount, hparse, rfl⟩
      exact ⟨parse_eq_ok_iff.mp hparse, amount.toNat_lt⟩
    · rintro ⟨hdecimal, hlt⟩
      exact ⟨⟨n, hlt⟩, parse_eq_ok_iff.mpr hdecimal, rfl⟩
  refine ⟨Text.trimBlanks input.toList, Text.isTrimmed_trimBlanks _, htakes, ?_, ?_,
    run_guardedParse input⟩
  · constructor
    · rintro ⟨e, herror⟩ n hdecimal
      by_contra hlt
      obtain ⟨amount, hparse, -⟩ := (htakes n).mpr ⟨hdecimal, Nat.lt_of_not_le hlt⟩
      rw [herror] at hparse
      cases hparse
    · intro hnone
      cases hparse : parse input with
      | error e => exact ⟨e, rfl⟩
      | ok amount =>
        obtain ⟨hdecimal, hlt⟩ := (htakes amount.toNat).mp ⟨amount, hparse, rfl⟩
        exact absurd (hnone _ hdecimal) (Nat.not_le_of_lt hlt)
  · intro count amount hparse
    exact parse_ofList_eq_ok ((parse_eq_ok_iff.mp hparse).zeros_append count)

theorem isDecimal_greatest :
    IsDecimal "340282366920938463463.374607431768211455".toList (2 ^ 128 - 1) := by
  have hparts : "340282366920938463463.374607431768211455".toList =
      "340282366920938463463".toList ++ '.' :: "374607431768211455".toList := by decide
  rw [hparts]
  exact .pointed (.inl (by decide)) (List.all_eq_true.mp rfl) (List.all_eq_true.mp rfl) (by decide)

/-- The greatest amount is read to the last loop, with blanks around it as well as with zeros in
front. -/
theorem parse_takes_greatest :
    ∃ amount, parse " 340282366920938463463.374607431768211455\n" = .ok amount ∧
      amount.toNat = 2 ^ 128 - 1 ∧
      parse "000340282366920938463463.374607431768211455" = .ok amount := by
  obtain ⟨text, htext, htakes, -, hzeros, -⟩ :=
    parse_takes_decimals " 340282366920938463463.374607431768211455\n"
  obtain rfl : "340282366920938463463.374607431768211455".toList = text := by
    rw [htext.eq_trimBlanks]
    decide
  obtain ⟨amount, hparse, hvalue⟩ := (htakes _).mpr ⟨isDecimal_greatest, by decide⟩
  exact ⟨amount, hparse, hvalue, hzeros 3 amount hparse⟩

end Loop

end ScoreDeploy
