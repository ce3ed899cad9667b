import ScoreDeploy.Proofs.Json.DocumentRead

/-!
# Passing over documents

Whoever passes over a text of a document comes to its end, whatever brackets are open around it.
-/

namespace ScoreDeploy.Json

variable {cs rest tail before : List Char} {doc : Document} {fuel : Nat} {around : List Open}

theorem skipKey_skipSpace (cs : List Char) : skipKey (skipSpace cs) = skipKey cs := by
  rw [skipKey, skipKey, skipSpace_skipSpace]

theorem skipValue_skipSpace (fuel : Nat) (around : List Open) (cs : List Char) :
    skipValue fuel around (skipSpace cs) = skipValue fuel around cs := by
  cases fuel with
  | zero => rfl
  | succ fuel => rw [skipValue, skipValue, skipSpace_skipSpace]

/-- Inside brackets blanks make no difference behind a value. -/
theorem skipRest_congr {bracket : Open} {left : List Char} (h : skipSpace left = skipSpace tail) :
    skipRest fuel (bracket :: around) left = skipRest fuel (bracket :: around) tail := by
  cases fuel with
  | zero => rfl
  | succ fuel => rw [skipRest, skipRest, h]

/-- Whoever passes over these characters goes on behind them. -/
def SkipsAs (cs : List Char) : Prop :=
  ∀ {fuel : Nat} {around : List Open} {tail rest : List Char}, EndsNumber tail →
    skipValue fuel around (cs ++ tail) = .ok rest →
      ∃ steps left, skipSpace left = skipSpace tail ∧ skipRest steps around left = .ok rest

theorem skipValue_scalar (h : StartsScalar cs) (fuel : Nat) (around : List Open) :
    skipValue (fuel + 1) around cs =
      match skipScalar cs with
      | .error f => .error f
      | .ok rest => skipRest fuel around rest := by
  obtain ⟨c, more, rfl, hspace, hbracket, hbrace, -⟩ := h
  rw [skipValue, skipSpace_cons hspace]
  split
  · next heq => exact absurd (List.cons_eq_cons.mp heq).1 hbracket
  · next heq => exact absurd (List.cons_eq_cons.mp heq).1 hbrace
  · rfl

theorem skipsAs_of_scalar (hstarts : ∀ tail, StartsScalar (cs ++ tail))
    (hscalar : ∀ {tail rest}, EndsNumber tail → skipScalar (cs ++ tail) = .ok rest → rest = tail) :
    SkipsAs cs := by
  intro fuel around tail rest hends hread
  cases fuel with
  | zero => cases hread
  | succ fuel =>
    rw [skipValue_scalar (hstarts tail)] at hread
    cases hleft : skipScalar (cs ++ tail) with
    | error f =>
      rw [hleft] at hread
      cases hread
    | ok left =>
      obtain rfl := hscalar hends hleft
      rw [hleft] at hread
      exact ⟨fuel, left, rfl, hread⟩

theorem skipRest_comma_array
    (hread : skipRest fuel (.array :: around) (',' :: cs) = .ok rest) :
    ∃ steps, skipValue steps (.array :: around) cs = .ok rest := by
  cases fuel with
  | zero => cases hread
  | succ fuel =>
    rw [skipRest, skipSpace_cons rfl] at hread
    exact ⟨fuel, hread⟩

theorem skipRest_closing (bracket : Open)
    (hread : skipRest fuel (bracket :: around) (bracket.closing :: tail) = .ok rest) :
    ∃ steps, skipRest steps around tail = .ok rest := by
  cases fuel with
  | zero => cases hread
  | succ fuel =>
    rw [skipRest] at hread
    cases bracket with
    | array =>
      rw [Open.closing, skipSpace_cons rfl] at hread
      exact ⟨fuel, hread⟩
    | object =>
      rw [Open.closing, skipSpace_cons rfl] at hread
      exact ⟨fuel, hread⟩

/-- The items of an array are passed over one after another. -/
theorem skipValue_separated {first : List Char} {others : List (List Char)}
    (h : ∀ part ∈ first :: others, SkipsAs part)
    (hread : skipValue fuel (.array :: around) (separated (first :: others) ++ ']' :: tail) =
      .ok rest) : ∃ steps, skipRest steps around tail = .ok rest := by
  induction others generalizing first fuel with
  | nil =>
    have htext : separated [first] = first := by simp [separated]
    rw [htext] at hread
    obtain ⟨steps, left, hleft, hrest⟩ :=
      h first List.mem_cons_self (endsNumber_cons (by decide) _) hread
    rw [skipRest_congr hleft] at hrest
    exact skipRest_closing .array hrest
  | cons second others ih =>
    obtain ⟨hfirst, hothers⟩ := List.forall_mem_cons.mp h
    rw [separated_cons_cons, List.append_assoc, List.cons_append] at hread
    obtain ⟨steps, left, hleft, hrest⟩ := hfirst (endsNumber_cons (by decide) _) hread
    rw [skipRest_congr hleft] at hrest
    obtain ⟨steps, hnext⟩ := skipRest_comma_array hrest
    exact ih hothers hnext

/-- Passes over a key, and then over the value of a member of an object. -/
def skipMember (fuel : Nat) (around : List Open) (cs : List Char) : Except Fault (List Char) :=
  match skipKey cs with
  | .error f => .error f
  | .ok rest => skipValue fuel (.object :: around) rest

theorem skipRest_comma_object
    (hread : skipRest fuel (.object :: around) (',' :: cs) = .ok rest) :
    ∃ steps, skipMember steps around cs = .ok rest := by
  cases fuel with
  | zero => cases hread
  | succ fuel =>
    rw [skipRest, skipSpace_cons rfl] at hread
    exact ⟨fuel, hread⟩

theorem skipMember_member {m : MemberText} (hkey : IsKeyText m.keyChars m.name)
    (h : SkipsAs m.valueChars) (hends : EndsNumber tail)
    (hread : skipMember fuel around (m.chars ++ tail) = .ok rest) :
    ∃ steps left, skipSpace left = skipSpace tail ∧
      skipRest steps (.object :: around) left = .ok rest := by
  rw [skipMember, MemberText.chars, List.append_assoc, List.cons_append, skipKey_eq hkey] at hread
  exact h hends hread

/-- The members of an object are passed over one after another. -/
theorem skipMember_separated {first : MemberText} {others : List MemberText}
    (hkeys : ∀ m ∈ first :: others, IsKeyText m.keyChars m.name)
    (h : ∀ m ∈ first :: others, SkipsAs m.valueChars)
    (hread : skipMember fuel around
      (separated ((first :: others).map MemberText.chars) ++ '\x7d' :: tail) = .ok rest) :
    ∃ steps, skipRest steps around tail = .ok rest := by
  induction others generalizing first fuel with
  | nil =>
    have htext : separated ([first].map MemberText.chars) = first.chars := by simp [separated]
    rw [htext] at hread
    obtain ⟨steps, left, hleft, hrest⟩ := skipMember_member (hkeys first List.mem_cons_self)
      (h first List.mem_cons_self) (endsNumber_cons (by decide) _) hread
    rw [skipRest_congr hleft] at hrest
    exact skipRest_closing .object hrest
  | cons second others ih =>
    obtain ⟨hkey, hkeys⟩ := List.forall_mem_cons.mp hkeys
    obtain ⟨hfirst, hothers⟩ := List.forall_mem_cons.mp h
    rw [List.map_cons, List.map_cons, separated_cons_cons, List.append_assoc,
      List.cons_append] at hread
    obtain ⟨steps, left, hleft, hrest⟩ := skipMember_member hkey hfirst
      (endsNumber_cons (by decide) _) hread
    rw [skipRest_congr hleft] at hrest
    obtain ⟨steps, hnext⟩ := skipRest_comma_object hrest
    exact ih hkeys hothers hnext

/-! ### Documents -/

theorem skipValue_noItems (h : AreBlank before)
    (hread : skipValue fuel around ('[' :: (before ++ ']' :: tail)) = .ok rest) :
    ∃ steps, skipRest steps around tail = .ok rest := by
  cases fuel with
  | zero => cases hread
  | succ fuel =>
    have hclose : skipSpace (before ++ ']' :: tail) = ']' :: tail := by
      rw [skipSpace_append h, skipSpace_cons rfl]
    simp only [skipValue, skipSpace_cons (c := '[') rfl, hclose] at hread
    exact ⟨fuel, hread⟩

theorem skipValue_noMembers (h : AreBlank before)
    (hread : skipValue fuel around ('\x7b' :: (before ++ '\x7d' :: tail)) = .ok rest) :
    ∃ steps, skipRest steps around tail = .ok rest := by
  cases fuel with
  | zero => cases hread
  | succ fuel =>
    have hclose : skipSpace (before ++ '\x7d' :: tail) = '\x7d' :: tail := by
      rw [skipSpace_append h, skipSpace_cons rfl]
    simp only [skipValue, skipSpace_cons (c := '\x7b') rfl, hclose] at hread
    exact ⟨fuel, hread⟩

/-- Brackets that hold something are passed over by passing over the items. -/
theorem exists_skipItems_eq (hne : ∀ more, skipSpace cs ≠ ']' :: more)
    (hread : skipValue fuel around ('[' :: cs) = .ok rest) :
    ∃ steps, skipValue steps (.array :: around) cs = .ok rest := by
  cases fuel with
  | zero => cases hread
  | succ fuel =>
    simp only [skipValue, skipSpace_cons (c := '[') rfl] at hread
    split at hread
    · cases hread
    · next heq => exact absurd heq (hne _)
    · rw [skipValue_skipSpace] at hread
      exact ⟨fuel, hread⟩

theorem exists_skipMember_eq (hne : ∀ more, skipSpace cs ≠ '\x7d' :: more)
    (hread : skipValue fuel around ('\x7b' :: cs) = .ok rest) :
    ∃ steps, skipMember steps around cs = .ok rest := by
  cases fuel with
  | zero => cases hread
  | succ fuel =>
    simp only [skipValue, skipSpace_cons (c := '\x7b') rfl] at hread
    split at hread
    · cases hread
    · next heq => exact absurd heq (hne _)
    · rw [skipKey_skipSpace] at hread
      exact ⟨fuel, hread⟩

theorem IsTextOf.skipsAs (h : IsTextOf cs doc) : SkipsAs cs := by
  induction h with
  | null =>
    refine skipsAs_of_scalar (fun _ => ⟨'n', _, rfl, by decide⟩) fun _ hscalar => ?_
    exact (Except.ok.inj hscalar).symm
  | yes =>
    refine skipsAs_of_scalar (fun _ => ⟨'t', _, rfl, by decide⟩) fun _ hscalar => ?_
    exact (Except.ok.inj hscalar).symm
  | no =>
    refine skipsAs_of_scalar (fun _ => ⟨'f', _, rfl, by decide⟩) fun _ hscalar => ?_
    exact (Except.ok.inj hscalar).symm
  | integer negative k =>
    refine skipsAs_of_scalar (fun tail => ?_) fun {tail rest} hends hscalar => ?_
    · rw [List.append_assoc]
      exact startsScalar_signChars negative k tail
    · rw [List.append_assoc] at hscalar
      exact skipScalar_leaves .none .none hends hscalar
  | decimal negative k hfraction hexponent =>
    refine skipsAs_of_scalar (fun tail => ?_) fun {tail rest} hends hscalar => ?_
    · rw [List.append_assoc, List.append_assoc]
      exact startsScalar_signChars negative k _
    · simp only [List.append_assoc] at hscalar
      exact skipScalar_leaves hfraction hexponent hends hscalar
  | @text cs s hescaped =>
    refine skipsAs_of_scalar (fun _ => ⟨'"', _, rfl, by decide⟩) fun {tail rest} _ hscalar => ?_
    have hlength : cs.length < (cs ++ '"' :: tail).length + 1 := by
      rw [List.length_append]
      omega
    rw [List.cons_append, List.append_assoc, List.singleton_append, skipScalar,
      skipText_isEscaped hescaped hlength] at hscalar
    exact (Except.ok.inj hscalar).symm
  | noItems hblanks =>
    intro fuel around tail rest _ hread
    rw [List.cons_append, List.append_assoc] at hread
    obtain ⟨steps, hrest⟩ := skipValue_noItems hblanks hread
    exact ⟨steps, tail, rfl, hrest⟩
  | @array parts hne htexts ih =>
    intro fuel around tail rest _ hread
    obtain ⟨first, others, rfl⟩ := List.exists_cons_of_ne_nil hne
    rw [List.cons_append, List.append_assoc] at hread
    obtain ⟨steps, hread⟩ :=
      exists_skipItems_eq (skipSpace_items_ne (htexts first List.mem_cons_self) _) hread
    have hparts : ∀ part ∈ (first :: others).map Prod.fst, SkipsAs part :=
      List.forall_mem_map.mpr ih
    obtain ⟨steps, hrest⟩ := skipValue_separated hparts hread
    exact ⟨steps, tail, rfl, hrest⟩
  | noMembers hblanks =>
    intro fuel around tail rest _ hread
    rw [List.cons_append, List.append_assoc] at hread
    obtain ⟨steps, hrest⟩ := skipValue_noMembers hblanks hread
    exact ⟨steps, tail, rfl, hrest⟩
  | @object parts hne hkeys _ ih =>
    intro fuel around tail rest _ hread
    obtain ⟨first, others, rfl⟩ := List.exists_cons_of_ne_nil hne
    rw [List.cons_append, List.append_assoc] at hread
    obtain ⟨steps, hread⟩ :=
      exists_skipMember_eq (skipSpace_members_ne (hkeys first List.mem_cons_self) _) hread
    obtain ⟨steps, hrest⟩ := skipMember_separated hkeys ih hread
    exact ⟨steps, tail, rfl, hrest⟩
  | @blanks before cs after doc hbefore hafter _ ih =>
    -- The blanks behind end a number too, so the hypothesis applies to what stands between.
    intro fuel around tail rest hends hread
    have hskip : skipValue fuel around (before ++ (cs ++ (after ++ tail))) =
        skipValue fuel around (cs ++ (after ++ tail)) := by
      rw [← skipValue_skipSpace, skipSpace_append hbefore, skipValue_skipSpace]
    rw [List.append_assoc, List.append_assoc, hskip] at hread
    obtain ⟨steps, left, hleft, hrest⟩ := ih (hafter.endsNumber_append hends) hread
    rw [skipSpace_append hafter] at hleft
    exact ⟨steps, left, hleft, hrest⟩

/-- Passing over a text leaves what follows it. -/
theorem IsTextOf.skip_leaves (h : IsTextOf cs doc) (hends : EndsNumber tail)
    (hread : skip (cs ++ tail) = .ok rest) : skipSpace rest = skipSpace tail := by
  -- No bracket is open at the start, so that passing over ends behind the text.
  obtain ⟨steps, left, hleft, hrest⟩ := h.skipsAs hends hread
  cases steps with
  | zero => cases hrest
  | succ steps =>
    obtain rfl := Except.ok.inj hrest
    exact hleft

end ScoreDeploy.Json
