import ScoreDeploy.Json.Text
import ScoreDeploy.Json.Reader
import ScoreDeploy.Proofs.Except
import Mathlib.Data.List.TakeDrop

/-!
# Reading numbers back

A number is read up to the first character that cannot continue it, so that it makes no difference
whether such a character follows or the text ends. The text of an integer is read as that integer.
-/

namespace ScoreDeploy.Json

/-- What stands here does not continue a number. -/
def EndsNumber (tail : List Char) : Prop :=
  ∀ c ∈ tail.head?, c.isDigit = false ∧ c ≠ '.' ∧ c ≠ 'e' ∧ c ≠ 'E'

section

variable {cs rest tail : List Char}

namespace EndsNumber

theorem ne_cons (h : EndsNumber tail) {c : Char} (hc : c = '.' ∨ c = 'e' ∨ c = 'E')
    (rest : List Char) : tail ≠ c :: rest := by
  rintro rfl
  obtain ⟨-, hpoint, hlower, hupper⟩ := h c rfl
  rcases hc with rfl | rfl | rfl <;> contradiction

theorem startsWithDigit_append (h : EndsNumber tail) (cs : List Char) :
    startsWithDigit (cs ++ tail) = startsWithDigit cs := by
  cases cs with
  | cons c cs => rfl
  | nil =>
    cases tail with
    | nil => rfl
    | cons c tail => exact (h c rfl).1

theorem dropWhile_append (h : EndsNumber tail) (cs : List Char) :
    (cs ++ tail).dropWhile Char.isDigit = cs.dropWhile Char.isDigit ++ tail := by
  have htail : tail.dropWhile Char.isDigit = tail := by
    cases tail with
    | nil => rfl
    | cons c tail => rw [List.dropWhile_cons_of_neg (by simp [h c rfl])]
  rw [List.dropWhile_append]
  split
  · next hempty => rw [htail, List.isEmpty_iff.mp hempty, List.nil_append]
  · rfl

theorem takeWhile_append (h : EndsNumber tail) (cs : List Char) :
    (cs ++ tail).takeWhile Char.isDigit = cs.takeWhile Char.isDigit := by
  have htail : tail.takeWhile Char.isDigit = [] := by
    cases tail with
    | nil => rfl
    | cons c tail => rw [List.takeWhile_cons_of_neg (by simp [h c rfl])]
  rw [List.takeWhile_append]
  split
  · next hlength =>
    rw [htail, List.append_nil]
    exact ((List.takeWhile_prefix _).eq_of_length hlength).symm
  · rfl

theorem gather_append (h : EndsNumber tail) (limit value count : Nat) (cs : List Char) :
    gather limit value count (cs ++ tail) =
      ((gather limit value count cs).1, (gather limit value count cs).2.1,
        (gather limit value count cs).2.2 ++ tail) := by
  induction cs generalizing value count with
  | nil =>
    cases tail with
    | nil => rfl
    | cons c tail => simp [gather, h c rfl]
  | cons c cs ih =>
    rw [List.cons_append, gather, gather]
    split
    · dsimp only
      split
      · exact ih _ _
      · rfl
    · rfl

end EndsNumber

theorem suffix_gather (limit value count : Nat) (cs : List Char) :
    (gather limit value count cs).2.2 <:+ cs := by
  induction cs generalizing value count with
  | nil => exact List.suffix_refl _
  | cons c cs ih =>
    rw [gather]
    dsimp only
    split
    · split
      · exact (ih _ _).trans (List.suffix_cons c cs)
      · exact List.suffix_refl _
    · exact List.suffix_refl _

/-! ### What follows a number makes no difference -/

/-- The reader leaves an end of the text, and reads the same where something follows that does not
continue a number. -/
def StopsAtEnd {α : Type} (read : List Char → Except Fault (α × List Char)) : Prop :=
  ∀ {a : α} {cs rest : List Char}, read cs = .ok (a, rest) →
    rest <:+ cs ∧ ∀ tail, EndsNumber tail → read (cs ++ tail) = .ok (a, rest ++ tail)

/-- A result that was there before something was left. -/
theorem eq_of_map_eq_ok {α : Type} {x : Except Fault α} {a : α}
    (h : x.map (fun b => (b, cs)) = .ok (a, rest)) : x = .ok a ∧ rest = cs := by
  cases x with
  | error f => cases h
  | ok b =>
    cases h
    exact ⟨rfl, rfl⟩

/-- Whether an exponent is below zero, and its digits. -/
def exponentSign (cs : List Char) : Bool × List Char :=
  match cs with
  | '+' :: rest => (false, rest)
  | '-' :: rest => (true, rest)
  | _ => (false, cs)

/-- Reads the digits of an exponent, and scales. -/
def exponentDigits (negative : Bool) (significand : Nat) (start : Int) (down : Bool)
    (cs : List Char) : Except Fault (Number × List Char) :=
  match cs with
  | [] => .error .unexpectedEnd
  | c :: _ =>
    if c.isDigit then
      let gathered := gather exponentLimit 0 0 cs
      if startsWithDigit gathered.2.2 then
        if significand ≠ 0 ∧ !down then .error .numberTooLarge
        else .ok (.float ⟨negative, 0⟩, gathered.2.2.dropWhile Char.isDigit)
      else
        (float negative significand
          (if down then start - gathered.1 else start + gathered.1)).map (·, gathered.2.2)
    else .error .badNumber

variable {negative : Bool} {significand value dropped : Nat} {start exponent : Int}

theorem exponentDigits_eq (down : Bool) (cs : List Char) :
    exponentDigits negative significand start down cs = (do
      match cs with
      | [] => throw .unexpectedEnd
      | c :: _ =>
        if !c.isDigit then throw .badNumber
        let (exponent, _, rest) := gather exponentLimit 0 0 cs
        if startsWithDigit rest then
          if significand ≠ 0 ∧ !down then throw .numberTooLarge
          return (.float ⟨negative, 0⟩, rest.dropWhile Char.isDigit)
        let total : Int := if down then start - exponent else start + exponent
        return (← float negative significand total, rest)) := by
  cases cs with
  | nil => rfl
  | cons c cs =>
    rw [exponentDigits]
    dsimp only
    cases c.isDigit with
    | false => rfl
    | true =>
      simp only [Bool.not_true, Bool.false_eq_true, if_false, if_true]
      split_ifs
      · rfl
      · rfl
      · cases float negative significand (start - (gather exponentLimit 0 0 (c :: cs)).1) <;> rfl
      · cases float negative significand (start + (gather exponentLimit 0 0 (c :: cs)).1) <;> rfl

theorem exponentPart_eq (cs : List Char) :
    exponentPart negative significand start cs =
      exponentDigits negative significand start (exponentSign cs).1 (exponentSign cs).2 :=
  (exponentDigits_eq (exponentSign cs).1 (exponentSign cs).2).symm

theorem suffix_exponentSign (cs : List Char) : (exponentSign cs).2 <:+ cs := by
  unfold exponentSign
  split
  · exact List.suffix_cons _ _
  · exact List.suffix_cons _ _
  · exact List.suffix_refl _

theorem exponentSign_append (h : cs ≠ []) (tail : List Char) :
    exponentSign (cs ++ tail) = ((exponentSign cs).1, (exponentSign cs).2 ++ tail) := by
  cases cs with
  | nil => exact absurd rfl h
  | cons c cs =>
    unfold exponentSign
    rw [List.cons_append]
    split <;> split <;> simp_all

theorem exponentDigits_stops (down : Bool) :
    StopsAtEnd (exponentDigits negative significand start down) := by
  intro n cs rest h
  cases cs with
  | nil => cases h
  | cons c cs =>
    simp only [exponentDigits, List.cons_append] at h ⊢
    have hsuffix : (gather exponentLimit 0 0 (c :: cs)).2.2 <:+ c :: cs := suffix_gather _ _ _ _
    by_cases hdigit : c.isDigit = true
    · simp only [if_pos hdigit] at h ⊢
      by_cases hmore : startsWithDigit (gather exponentLimit 0 0 (c :: cs)).2.2 = true
      · rw [if_pos hmore] at h
        by_cases hlarge : significand ≠ 0 ∧ (!down) = true
        · rw [if_pos hlarge] at h
          cases h
        · rw [if_neg hlarge] at h
          cases h
          refine ⟨(List.dropWhile_suffix _).trans hsuffix, fun tail hends => ?_⟩
          rw [← List.cons_append, hends.gather_append, hends.startsWithDigit_append, if_pos hmore,
            if_neg hlarge, hends.dropWhile_append]
      · rw [if_neg hmore] at h
        obtain ⟨hvalue, rfl⟩ := eq_of_map_eq_ok h
        refine ⟨hsuffix, fun tail hends => ?_⟩
        rw [← List.cons_append, hends.gather_append, hends.startsWithDigit_append, if_neg hmore,
          hvalue]
        rfl
    · rw [if_neg hdigit] at h
      cases h

theorem exponentPart_stops : StopsAtEnd (exponentPart negative significand start) := by
  intro n cs rest h
  simp only [exponentPart_eq] at h ⊢
  cases cs with
  | nil => cases h
  | cons c cs =>
    obtain ⟨hsuffix, hread⟩ := exponentDigits_stops _ h
    refine ⟨hsuffix.trans (suffix_exponentSign _), fun tail hends => ?_⟩
    rw [exponentSign_append (List.cons_ne_nil c cs)]
    exact hread tail hends

theorem afterDigits_of_ne (hlower : ∀ rest, cs ≠ 'e' :: rest) (hupper : ∀ rest, cs ≠ 'E' :: rest) :
    afterDigits negative significand exponent cs =
      (float negative significand exponent).map (·, cs) := by
  unfold afterDigits
  split
  · exact absurd rfl (hlower _)
  · exact absurd rfl (hupper _)
  · cases float negative significand exponent <;> rfl

/-- What is read before an exponent, a point or the end, and what follows them. -/
theorem afterDigits_stops : StopsAtEnd (afterDigits negative significand exponent) := by
  intro n cs rest h
  by_cases hlower : ∃ rest, cs = 'e' :: rest
  · obtain ⟨cs, rfl⟩ := hlower
    obtain ⟨hsuffix, hread⟩ := exponentPart_stops h
    exact ⟨hsuffix.trans (List.suffix_cons _ _), hread⟩
  by_cases hupper : ∃ rest, cs = 'E' :: rest
  · obtain ⟨cs, rfl⟩ := hupper
    obtain ⟨hsuffix, hread⟩ := exponentPart_stops h
    exact ⟨hsuffix.trans (List.suffix_cons _ _), hread⟩
  rw [not_exists] at hlower hupper
  rw [afterDigits_of_ne hlower hupper] at h
  obtain ⟨hvalue, rfl⟩ := eq_of_map_eq_ok h
  refine ⟨List.suffix_refl _, fun tail hends => ?_⟩
  have hne : ∀ c, (c = 'e' ∨ c = 'E') → ∀ more, rest ++ tail ≠ c :: more := by
    intro c hc more hcons
    cases rest with
    | nil => exact hends.ne_cons (.inr hc) more hcons
    | cons d rest =>
      cases hcons
      rcases hc with rfl | rfl
      · exact hlower rest rfl
      · exact hupper rest rfl
  rw [afterDigits_of_ne (hne 'e' (by simp)) (hne 'E' (by simp)), hvalue]
  rfl

theorem fractionPart_stops : StopsAtEnd (fractionPart negative significand start) := by
  intro n cs rest h
  simp only [fractionPart] at h ⊢
  have hsuffix : (gather significandLimit significand 0 cs).2.2 <:+ cs := suffix_gather _ _ _ _
  by_cases hmore : startsWithDigit (gather significandLimit significand 0 cs).2.2 = true
  · rw [if_pos hmore] at h
    obtain ⟨hsuffix', hread⟩ := afterDigits_stops h
    refine ⟨hsuffix'.trans ((List.dropWhile_suffix _).trans hsuffix), fun tail hends => ?_⟩
    rw [hends.gather_append, hends.startsWithDigit_append, if_pos hmore, hends.dropWhile_append]
    exact hread tail hends
  · rw [if_neg hmore] at h
    by_cases hnone : (gather significandLimit significand 0 cs).2.1 = 0
    · rw [if_pos hnone] at h
      cases h
    · rw [if_neg hnone] at h
      obtain ⟨hsuffix', hread⟩ := afterDigits_stops h
      refine ⟨hsuffix'.trans hsuffix, fun tail hends => ?_⟩
      rw [hends.gather_append, hends.startsWithDigit_append, if_neg hmore, if_neg hnone]
      exact hread tail hends

theorem afterWhole_of_ne (hpoint : ∀ rest, cs ≠ '.' :: rest) (hlower : ∀ rest, cs ≠ 'e' :: rest)
    (hupper : ∀ rest, cs ≠ 'E' :: rest) :
    afterWhole negative value dropped cs =
      (if dropped = 0 then whole negative value else float negative value dropped).map
        (·, cs) := by
  unfold afterWhole
  split
  · exact absurd rfl (hpoint _)
  · exact absurd rfl (hlower _)
  · exact absurd rfl (hupper _)
  · split_ifs
    · cases whole negative value <;> rfl
    · cases float negative value dropped <;> rfl

theorem afterWhole_stops : StopsAtEnd (afterWhole negative value dropped) := by
  intro n cs rest h
  by_cases hpoint : ∃ rest, cs = '.' :: rest
  · obtain ⟨cs, rfl⟩ := hpoint
    obtain ⟨hsuffix, hread⟩ := fractionPart_stops h
    exact ⟨hsuffix.trans (List.suffix_cons _ _), hread⟩
  by_cases hlower : ∃ rest, cs = 'e' :: rest
  · obtain ⟨cs, rfl⟩ := hlower
    obtain ⟨hsuffix, hread⟩ := exponentPart_stops h
    exact ⟨hsuffix.trans (List.suffix_cons _ _), hread⟩
  by_cases hupper : ∃ rest, cs = 'E' :: rest
  · obtain ⟨cs, rfl⟩ := hupper
    obtain ⟨hsuffix, hread⟩ := exponentPart_stops h
    exact ⟨hsuffix.trans (List.suffix_cons _ _), hread⟩
  rw [not_exists] at hpoint hlower hupper
  rw [afterWhole_of_ne hpoint hlower hupper] at h
  obtain ⟨hvalue, rfl⟩ := eq_of_map_eq_ok h
  refine ⟨List.suffix_refl _, fun tail hends => ?_⟩
  have hne : ∀ c, (c = '.' ∨ c = 'e' ∨ c = 'E') → ∀ more, rest ++ tail ≠ c :: more := by
    intro c hc more hcons
    cases rest with
    | nil => exact hends.ne_cons hc more hcons
    | cons d rest =>
      cases hcons
      rcases hc with rfl | rfl | rfl
      · exact hpoint rest rfl
      · exact hlower rest rfl
      · exact hupper rest rfl
  rw [afterWhole_of_ne (hne '.' (by simp)) (hne 'e' (by simp)) (hne 'E' (by simp)), hvalue]
  rfl

theorem numberBody_stops : StopsAtEnd (numberBody negative) := by
  intro n cs rest h
  cases cs with
  | nil => cases h
  | cons c cs =>
    by_cases hzero : c = '0'
    · subst hzero
      simp only [List.cons_append, numberBody] at h ⊢
      by_cases hmore : startsWithDigit cs = true
      · rw [if_pos hmore] at h
        cases h
      · rw [if_neg hmore] at h
        obtain ⟨hsuffix, hread⟩ := afterWhole_stops h
        refine ⟨hsuffix.trans (List.suffix_cons _ _), fun tail hends => ?_⟩
        rw [hends.startsWithDigit_append, if_neg hmore]
        exact hread tail hends
    · rw [numberBody] at h
      · by_cases hdigit : c.isDigit = true
        · rw [if_pos hdigit] at h
          obtain ⟨hsuffix, hread⟩ := afterWhole_stops h
          have hgather : (gather significandLimit 0 0 (c :: cs)).2.2 <:+ c :: cs :=
            suffix_gather _ _ _ _
          refine ⟨hsuffix.trans ((List.dropWhile_suffix _).trans hgather), fun tail hends => ?_⟩
          rw [List.cons_append, numberBody, if_pos hdigit, ← List.cons_append, hends.gather_append]
          · simp only [hends.takeWhile_append, hends.dropWhile_append]
            exact hread tail hends
          · exact hzero
        · rw [if_neg hdigit] at h
          cases h
      · exact hzero

/-- A number at the end of a text is also read where something follows that does not continue
it. -/
theorem scalar_stops {n : Number} (h : scalar cs = .ok (.number n, rest)) :
    rest <:+ cs ∧
      ∀ tail, EndsNumber tail → scalar (cs ++ tail) = .ok (.number n, rest ++ tail) := by
  have hnumber : ∀ {negative cs},
      ((numberBody negative cs).bind fun p => .ok (Json.number p.1, p.2)) = .ok (.number n, rest) →
        rest <:+ cs ∧ ∀ tail, EndsNumber tail →
          ((numberBody negative (cs ++ tail)).bind fun p => .ok (Json.number p.1, p.2)) =
            .ok (.number n, rest ++ tail) := by
    intro negative cs h
    obtain ⟨⟨m, rest'⟩, hbody, hpair⟩ := Except.bind_eq_ok_iff.mp h
    cases hpair
    obtain ⟨hsuffix, hread⟩ := numberBody_stops hbody
    refine ⟨hsuffix, fun tail hends => ?_⟩
    rw [hread tail hends]
    rfl
  cases cs with
  | nil => cases h
  | cons c cs =>
    unfold scalar at h
    split at h
    · cases h
    · obtain ⟨_, -, hpair⟩ := Except.bind_eq_ok_iff.mp h
      cases hpair
    · obtain ⟨_, -, hpair⟩ := Except.bind_eq_ok_iff.mp h
      cases hpair
    · obtain ⟨_, -, hpair⟩ := Except.bind_eq_ok_iff.mp h
      cases hpair
    · obtain ⟨_, -, hpair⟩ := Except.bind_eq_ok_iff.mp h
      cases hpair
    · next hcs =>
      cases hcs
      obtain ⟨hsuffix, hread⟩ := hnumber h
      exact ⟨hsuffix.trans (List.suffix_cons _ _), hread⟩
    · next hnull htrue hfalse hquote hminus hcs =>
      cases hcs
      by_cases hdigit : c.isDigit = true
      · rw [if_pos hdigit] at h
        obtain ⟨hsuffix, hread⟩ := hnumber h
        refine ⟨hsuffix, fun tail hends => ?_⟩
        rw [List.cons_append, scalar, if_pos hdigit]
        · exact hread tail hends
        all_goals simp_all
      · rw [if_neg hdigit] at h
        cases h

end

/-! ### Integers -/

theorem gather_append_of_all {limit value count value' count' : Nat} {cs : List Char}
    (h : gather limit value count cs = (value', count', [])) (more : List Char) :
    gather limit value count (cs ++ more) = gather limit value' count' more := by
  induction cs generalizing value count with
  | nil =>
    cases h
    rfl
  | cons c cs ih =>
    rw [List.cons_append, gather]
    rw [gather] at h
    dsimp only at h ⊢
    split_ifs at h ⊢
    · exact ih h
    · cases h
    · cases h

/-- All digits of a number below the limit are gathered. -/
theorem gather_toDigits {limit n : Nat} (hn : n < limit) :
    gather limit 0 0 (Nat.toDigits 10 n) = (n, (Nat.toDigits 10 n).length, []) := by
  induction n using Nat.strongRecOn with
  | ind n ih =>
    by_cases hsmall : n < 10
    · have hdigit : (Nat.digitChar n).toNat - '0'.toNat = n := by
        rw [Nat.toNat_digitChar_of_lt_ten hsmall]
        exact Nat.add_sub_cancel_left 48 n
      rw [Nat.toDigits_of_lt_base hsmall, gather, if_pos (by simp [Nat.isDigit_digitChar, hsmall])]
      simp only [hdigit, Nat.zero_mul, Nat.zero_add]
      rw [if_pos hn]
      rfl
    · have hlast : n % 10 < 10 := Nat.mod_lt _ (by decide)
      have hdigit : (Nat.digitChar (n % 10)).toNat - '0'.toNat = n % 10 := by
        rw [Nat.toNat_digitChar_of_lt_ten hlast]
        exact Nat.add_sub_cancel_left 48 _
      have hsum : n / 10 * 10 + n % 10 = n := by omega
      rw [Nat.toDigits_of_base_le (by decide) (Nat.le_of_not_lt hsmall),
        gather_append_of_all (ih (n / 10) (by omega) (by omega)), gather,
        if_pos (by simp [Nat.isDigit_digitChar, hlast])]
      simp only [hdigit, hsum]
      rw [if_pos hn, gather, List.length_append, List.length_singleton]

/-- Only zero starts with a zero. -/
theorem exists_toDigits_eq_cons (n : Nat) : ∃ c cs, Nat.toDigits 10 n = c :: cs ∧
    c.isDigit = true ∧ (c = '0' → n = 0 ∧ cs = []) := by
  induction n using Nat.strongRecOn with
  | ind n ih =>
    by_cases hsmall : n < 10
    · refine ⟨n.digitChar, [], Nat.toDigits_of_lt_base hsmall, ?_, fun hzero => ⟨?_, rfl⟩⟩
      · simp [Nat.isDigit_digitChar, hsmall]
      · have hcode := congrArg Char.toNat hzero
        rw [Nat.toNat_digitChar_of_lt_ten hsmall] at hcode
        exact Nat.add_left_cancel hcode
    · obtain ⟨c, cs, hcons, hdigit, hzero⟩ := ih (n / 10) (by omega)
      refine ⟨c, cs ++ [(n % 10).digitChar], ?_, hdigit, fun hc => ?_⟩
      · rw [Nat.toDigits_of_base_le (by decide) (Nat.le_of_not_lt hsmall), hcons, List.cons_append]
      · have hten := (hzero hc).1
        omega

theorem numberBody_toDigits {n : Nat} (hn : n < significandLimit) (negative : Bool) :
    numberBody negative (Nat.toDigits 10 n) = (whole negative n).map (·, []) := by
  obtain ⟨c, cs, hcons, hdigit, hzero⟩ := exists_toDigits_eq_cons n
  by_cases hc : c = '0'
  · obtain ⟨rfl, rfl⟩ := hzero hc
    subst hc
    rw [hcons]
    cases hwhole : whole negative 0 <;>
      simp [numberBody, startsWithDigit, afterWhole, hwhole] <;> rfl
  · rw [hcons, numberBody, if_pos hdigit, ← hcons, gather_toDigits hn]
    · simp only [List.takeWhile_nil, List.dropWhile_nil, List.length_nil, afterWhole, if_true]
      cases whole negative n <;> rfl
    · exact hc

theorem whole_natAbs (n : Integer) : whole (decide (n.toInt < 0)) n.toInt.natAbs =
    .ok (.integer n) := by
  have hbounds := n.bounds
  have habs : (if (decide (n.toInt < 0)) = true then -(n.toInt.natAbs : Int) else n.toInt.natAbs) =
      n.toInt := by
    split_ifs with hneg
    · rw [decide_eq_true_eq] at hneg
      omega
    · rw [decide_eq_true_eq] at hneg
      omega
  have hpositive : ¬(decide (n.toInt < 0) = true ∧ n.toInt.natAbs = 0) := by
    rw [decide_eq_true_eq]
    omega
  rw [whole, if_neg hpositive, habs, Integer.ofInt?, dif_pos hbounds]

/-- The text of an integer is read as that integer. -/
theorem scalar_integer (n : Integer) :
    scalar (Number.integer n).text.toList = .ok (.number (.integer n), []) := by
  have hbounds := n.bounds
  have hbody : numberBody (decide (n.toInt < 0)) (Nat.toDigits 10 n.toInt.natAbs) =
      .ok (.integer n, []) := by
    rw [numberBody_toDigits, whole_natAbs]
    · rfl
    · change n.toInt.natAbs < 18446744073709551616
      omega
  rw [Number.text, integerText, Numeral.decimal]
  by_cases hneg : n.toInt < 0
  · rw [if_pos hneg]
    rw [decide_eq_true hneg] at hbody
    have hcs : ("-" ++ String.ofList (Nat.toDigits 10 n.toInt.natAbs)).toList =
        '-' :: Nat.toDigits 10 n.toInt.natAbs := by simp
    rw [hcs, scalar, hbody]
    rfl
  · rw [if_neg hneg, String.toList_ofList]
    rw [decide_eq_false hneg] at hbody
    obtain ⟨c, cs, hcons, hdigit, -⟩ := exists_toDigits_eq_cons n.toInt.natAbs
    rw [hcons] at hbody ⊢
    rw [scalar, if_pos hdigit, hbody]
    · rfl
    all_goals
      rintro rfl
      exact absurd hdigit (by decide)

end ScoreDeploy.Json
