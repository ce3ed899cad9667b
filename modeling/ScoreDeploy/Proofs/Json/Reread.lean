import ScoreDeploy.Proofs.Json.Numbers
import ScoreDeploy.Proofs.Json.Written

/-!
# Reading pretty texts

What is written on lines of its own is read back as it was, whatever blanks stand before it and
whatever follows it, if its brackets are not nested too deep and its numbers can be read back one by
one.
-/

namespace ScoreDeploy.Json

/-! ### Blanks -/

/-- All characters may stand between the parts of a value. -/
def AreBlank (cs : List Char) : Prop :=
  ∀ c ∈ cs, isSpace c = true

theorem areBlank_nil : AreBlank [] :=
  List.forall_mem_nil _

theorem areBlank_space : AreBlank [' '] :=
  List.forall_mem_singleton.mpr rfl

theorem areBlank_line (level : Nat) : AreBlank (line level) := by
  intro c hc
  rcases List.mem_cons.mp hc with rfl | hc
  · rfl
  · rw [List.eq_of_mem_replicate hc]
    rfl

theorem skipSpace_append {blanks : List Char} (h : AreBlank blanks) (cs : List Char) :
    skipSpace (blanks ++ cs) = skipSpace cs :=
  List.dropWhile_append_of_pos h

theorem skipSpace_cons {c : Char} (h : isSpace c = false) (cs : List Char) :
    skipSpace (c :: cs) = c :: cs :=
  List.dropWhile_cons_of_neg (by simp [h])

/-! ### Texts -/

theorem hexNumber?_control : ∀ n < 32,
    hexNumber? '0' '0' (Nat.digitChar (n / 16)) (Nat.digitChar (n % 16)) = some n := by
  decide

theorem textFrom_escapedChar (fuel : Nat) (done : List Char) (c : Char) (rest : List Char) :
    textFrom (fuel + 1) done (escapedChar c ++ rest) = textFrom fuel (c :: done) rest := by
  rw [escapedChar]
  split_ifs with hquote hb hf hn hr ht hcontrol
  · rcases hquote with rfl | rfl <;> rfl
  · subst hb; rfl
  · subst hf; rfl
  · subst hn; rfl
  · subst hr; rfl
  · subst ht; rfl
  · have hhex := hexNumber?_control c.toNat hcontrol
    have hlow : ¬(0xDC00 ≤ c.toNat ∧ c.toNat ≤ 0xDFFF) := by omega
    have hhigh : ¬(0xD800 ≤ c.toNat ∧ c.toNat ≤ 0xDBFF) := by omega
    simp only [List.cons_append, List.nil_append, textFrom, escape, hexNumber, hhex, if_neg hlow,
      if_neg hhigh, Char.ofNat_toNat]
  · rw [not_or] at hquote
    rw [List.singleton_append, textFrom, if_neg hcontrol]
    · exact hquote.1
    · exact hquote.2

theorem textFrom_escaped {cs : List Char} {fuel : Nat} (h : cs.length < fuel)
    (done tail : List Char) :
    textFrom fuel done (cs.flatMap escapedChar ++ '"' :: tail) =
      .ok (String.ofList (done.reverse ++ cs), tail) := by
  induction cs generalizing fuel done with
  | nil =>
    obtain ⟨fuel, rfl⟩ := Nat.exists_eq_add_of_le' h
    rw [List.append_nil]
    rfl
  | cons c cs ih =>
    obtain ⟨fuel, rfl⟩ := Nat.exists_eq_add_of_le' (Nat.one_le_of_lt h)
    rw [List.flatMap_cons, List.append_assoc, textFrom_escapedChar, ih (Nat.lt_of_succ_lt_succ h),
      List.reverse_cons, List.append_assoc, List.singleton_append]

theorem one_le_length_escapedChar (c : Char) : 1 ≤ (escapedChar c).length := by
  rw [escapedChar]
  split_ifs <;> simp

theorem length_le_length_flatMap_escapedChar (cs : List Char) :
    cs.length ≤ (cs.flatMap escapedChar).length := by
  induction cs with
  | nil => exact Nat.le_refl 0
  | cons c cs ih =>
    have hone := one_le_length_escapedChar c
    simp only [List.flatMap_cons, List.length_append, List.length_cons]
    omega

theorem textBody_escaped (s : String) (tail : List Char) :
    textBody (s.toList.flatMap escapedChar ++ '"' :: tail) = .ok (s, tail) := by
  have hlength := length_le_length_flatMap_escapedChar s.toList
  rw [textBody, textFrom_escaped]
  · rw [List.reverse_nil, List.nil_append, String.ofList_toList]
  · simp only [List.length_append, List.length_cons]
    omega

theorem quoted_append (s : String) (tail : List Char) :
    quoted s ++ tail = '"' :: (s.toList.flatMap escapedChar ++ '"' :: tail) := by
  simp [quoted]

theorem scalar_quoted (s : String) (tail : List Char) :
    scalar (quoted s ++ tail) = .ok (.string s, tail) := by
  rw [quoted_append, scalar, textBody_escaped]
  rfl

theorem key_quoted {blanks : List Char} (h : AreBlank blanks) (s : String) (tail : List Char) :
    key (blanks ++ (quoted s ++ tail)) = .ok (s, tail) := by
  rw [key, skipSpace_append h, quoted_append, skipSpace_cons rfl]
  exact textBody_escaped s tail

theorem colon_cons (tail : List Char) : colon (':' :: tail) = .ok tail := by
  rw [colon, skipSpace_cons rfl]
  rfl

theorem keyAndColon_quoted {blanks : List Char} (h : AreBlank blanks) (s : String)
    (tail : List Char) : keyAndColon (blanks ++ (quoted s ++ ':' :: tail)) = .ok (s, tail) := by
  rw [keyAndColon, key_quoted h, Except.ok_bind]
  dsimp only
  rw [colon_cons]
  rfl

/-! ### Scalars -/

/-- The reader takes the whole text of the number for the number. -/
def Number.IsToken (n : Number) : Prop :=
  scalar n.text.toList = .ok (.number n, [])

theorem isToken_integer (n : Integer) : (Number.integer n).IsToken :=
  scalar_integer n

/-- A character that texts of numbers consist of. -/
def IsNumeric (c : Char) : Prop :=
  c.isDigit = true ∨ c ∈ ['-', '+', '.', 'e']

theorem isNumeric_of_mem_toDigits {n : Nat} {c : Char} (h : c ∈ Nat.toDigits 10 n) : IsNumeric c :=
  .inl (Nat.isDigit_of_mem_toDigits (by decide) (by decide) h)

theorem forall_mem_shortest (count : Nat) :
    ∀ c ∈ (Binary64.shortest count).digits, IsNumeric c := by
  intro c hc
  rw [Binary64.shortest, List.mem_reverse] at hc
  exact isNumeric_of_mem_toDigits (List.mem_reverse.mp ((List.dropWhile_suffix _).mem hc))

theorem forall_mem_positional {d : Binary64.Decimal} (h : ∀ c ∈ d.digits, IsNumeric c) :
    ∀ c ∈ Binary64.positional d, IsNumeric c := by
  have hpoint : IsNumeric '.' := .inr (by decide)
  have hzero : IsNumeric '0' := .inl (by decide)
  have hzeros : ∀ {count : Nat}, ∀ c ∈ List.replicate count '0', IsNumeric c := by
    intro count c hc
    rw [List.eq_of_mem_replicate hc]
    exact hzero
  rw [Binary64.positional]
  dsimp only
  split_ifs
  · simp only [List.cons_append, List.forall_mem_cons, List.forall_mem_append]
    exact ⟨hzero, hpoint, hzeros, h⟩
  · simp only [List.forall_mem_append, List.forall_mem_cons]
    exact ⟨⟨h, hzeros⟩, hpoint, hzero, List.forall_mem_nil _⟩
  · simp only [List.forall_mem_append, List.forall_mem_cons]
    exact ⟨fun c hc => h c (List.mem_of_mem_take hc), hpoint,
      fun c hc => h c (List.mem_of_mem_drop hc)⟩

theorem forall_mem_scientific {d : Binary64.Decimal} (h : ∀ c ∈ d.digits, IsNumeric c) :
    ∀ c ∈ Binary64.scientific d, IsNumeric c := by
  have hsign : IsNumeric (if d.point - 1 < 0 then '-' else '+') := by
    split_ifs
    · exact .inr (by decide)
    · exact .inr (by decide)
  rw [Binary64.scientific]
  simp only [List.forall_mem_append, List.forall_mem_cons]
  refine ⟨?_, .inr (by decide), hsign, fun c hc => isNumeric_of_mem_toDigits hc⟩
  split
  · next first second rest hdigits =>
    rw [hdigits] at h
    simp only [List.forall_mem_cons] at h ⊢
    exact ⟨h.1, .inr (by decide), h.2⟩
  · exact h

theorem forall_mem_text (x : Binary64) : ∀ c ∈ x.text.toList, IsNumeric c := by
  rw [Binary64.text, String.toList_ofList]
  simp only [List.forall_mem_append]
  constructor
  · split_ifs
    · exact List.forall_mem_singleton.mpr (.inr (by decide))
    · exact List.forall_mem_nil _
  · split_ifs
    · simp only [List.forall_mem_cons]
      exact ⟨.inl (by decide), .inr (by decide), .inl (by decide), List.forall_mem_nil _⟩
    · exact forall_mem_positional (forall_mem_shortest _)
    · exact forall_mem_scientific (forall_mem_shortest _)

theorem IsNumeric.isSpace_eq {c : Char} (h : IsNumeric c) : isSpace c = false := by
  by_contra hspace
  rw [Bool.not_eq_false] at hspace
  simp only [isSpace, Bool.or_eq_true, beq_iff_eq] at hspace
  revert h
  rcases hspace with ((rfl | rfl) | rfl) | rfl <;> simp [IsNumeric]

/-- Neither a blank nor an opening bracket stands in front. -/
def StartsScalar (cs : List Char) : Prop :=
  ∃ c rest, cs = c :: rest ∧ isSpace c = false ∧ c ≠ '[' ∧ c ≠ '\x7b' ∧ c ≠ ']'

theorem tree_scalar {blanks cs : List Char} (hblanks : AreBlank blanks) (h : StartsScalar cs)
    (fuel depth : Nat) : tree (fuel + 1) depth (blanks ++ cs) = scalar cs := by
  obtain ⟨c, rest, rfl, hspace, hbracket, hbrace, -⟩ := h
  rw [tree, skipSpace_append hblanks, skipSpace_cons hspace]
  split
  · next heq => exact absurd (List.cons_eq_cons.mp heq).1 hbracket
  · next heq => exact absurd (List.cons_eq_cons.mp heq).1 hbrace
  · rfl

/-- A number starts with its sign or a digit. -/
theorem startsScalar_of_number {cs rest : List Char} {n : Number}
    (h : scalar cs = .ok (.number n, rest)) : StartsScalar cs := by
  cases cs with
  | nil => cases h
  | cons c cs =>
    unfold scalar at h
    split at h
    · cases h
    · obtain ⟨_, -, hpair⟩ := Except.bind_eq_ok_iff.mp h
      cases hpair
    · obtain ⟨_, -, hpair⟩ := Except.bind_eq_ok_iff.mp h
      cases hpair
    · obtain ⟨_, -, hpair⟩ := Except.bind_eq_ok_iff.mp h
      cases hpair
    · obtain ⟨_, -, hpair⟩ := Except.bind_eq_ok_iff.mp h
      cases hpair
    · next hcs =>
      cases hcs
      exact ⟨'-', _, rfl, by decide⟩
    · next hcs =>
      cases hcs
      by_cases hdigit : c.isDigit = true
      · refine ⟨c, _, rfl, ?_, ?_, ?_, ?_⟩
        · exact IsNumeric.isSpace_eq (.inl hdigit)
        all_goals
          rintro rfl
          exact absurd hdigit (by decide)
      · rw [if_neg hdigit] at h
        cases h

theorem StartsScalar.of_forall_mem {c : Char} {cs : List Char} (h : ∀ d ∈ c :: cs, IsNumeric d) :
    StartsScalar (c :: cs) := by
  have hc : IsNumeric c := h c List.mem_cons_self
  refine ⟨c, cs, rfl, hc.isSpace_eq, ?_, ?_, ?_⟩
  all_goals
    rintro rfl
    exact absurd hc (by simp [IsNumeric])

theorem exists_of_finish {α : Type} {result : Except Fault (α × List Char)} {a : α}
    (h : finish result = .ok a) :
    ∃ rest, result = .ok (a, rest) ∧ (skipSpace rest).isEmpty = true := by
  obtain ⟨⟨b, rest⟩, hresult, hfinish⟩ := Except.bind_eq_ok_iff.mp h
  dsimp only at hfinish
  split at hfinish
  · next hempty =>
    obtain rfl := Except.ok.inj hfinish
    exact ⟨rest, hresult, hempty⟩
  · cases hfinish

theorem exists_tree_of_read {text : String} {value : Json} (h : read text = .ok value) :
    ∃ v rest, tree (enoughSteps text.toList) maxDepth text.toList = .ok (v, rest) ∧
      (skipSpace rest).isEmpty = true ∧ v.canonical = value := by
  obtain ⟨v, htree, hvalue⟩ := Except.map_eq_ok_iff.mp h
  obtain ⟨rest, hrest, hempty⟩ := exists_of_finish htree
  exact ⟨v, rest, hrest, hempty, hvalue⟩

/-- A number whose text denotes it is taken for itself in the middle of a text too. -/
theorem isToken_of_read {n : Number} (h : read n.text = .ok (.number n)) : n.IsToken := by
  cases n with
  | integer n => exact isToken_integer n
  | float x =>
    have hnumeric : ∀ c ∈ (Number.float x).text.toList, IsNumeric c := forall_mem_text x
    obtain ⟨v, rest, hread, hempty, hvalue⟩ := exists_tree_of_read h
    rw [Number.IsToken]
    generalize (Number.float x).text.toList = cs at hnumeric hread ⊢
    cases cs with
    | nil => cases hread
    | cons c cs =>
      have htree := tree_scalar areBlank_nil (StartsScalar.of_forall_mem hnumeric)
        (2 * (c :: cs).length + 1) maxDepth
      rw [List.nil_append] at htree
      rw [enoughSteps, htree] at hread
      obtain rfl : v = .number (.float x) := by
        cases v <;> simp_all [canonical]
      -- Nothing is left, since no blank stands in the text.
      have hsuffix := (scalar_stops hread).1
      cases rest with
      | nil => exact hread
      | cons d rest =>
        rw [skipSpace_cons (hnumeric d (hsuffix.mem List.mem_cons_self)).isSpace_eq] at hempty
        cases hempty

/-! ### Values -/

/-- Brackets are nested at most that deep, and all numbers have the property. -/
inductive Fits (p : Number → Prop) : Nat → Json → Prop
  | null (depth : Nat) : Fits p depth .null
  | bool (depth : Nat) (b : Bool) : Fits p depth (.bool b)
  | number (depth : Nat) {n : Number} : p n → Fits p depth (.number n)
  | string (depth : Nat) (s : String) : Fits p depth (.string s)
  | array {depth : Nat} {items : List Json} : (∀ item ∈ items, Fits p depth item) →
      Fits p (depth + 1) (.array items)
  | object {depth : Nat} {members : Members} : (∀ m ∈ members, Fits p depth m.2) →
      Fits p (depth + 1) (.object members)

/-- The value is read back from its characters, whatever follows that does not continue a number. -/
structure Rereads (depth : Nat) (value : Json) : Prop where
  starts : ∀ level, ∃ c rest, prettyChars level value = c :: rest ∧ isSpace c = false ∧ c ≠ ']'
  tree_eq : ∀ (fuel level : Nat) (blanks tail : List Char),
    (prettyChars level value).length ≤ fuel → AreBlank blanks → EndsNumber tail →
      tree fuel depth (blanks ++ (prettyChars level value ++ tail)) = .ok (value, tail)

theorem rereads_scalar {depth : Nat} {value : Json}
    (hstarts : ∀ level, StartsScalar (prettyChars level value))
    (hscalar : ∀ level tail, EndsNumber tail →
      scalar (prettyChars level value ++ tail) = .ok (value, tail)) : Rereads depth value where
  starts level := by
    obtain ⟨c, rest, hcs, hspace, -, -, hclose⟩ := hstarts level
    exact ⟨c, rest, hcs, hspace, hclose⟩
  tree_eq fuel level blanks tail hfuel hblanks hends := by
    obtain ⟨c, rest, hcs, hc⟩ := hstarts level
    have hpositive : 1 ≤ fuel := by
      rw [hcs] at hfuel
      exact Nat.one_le_of_lt hfuel
    obtain ⟨fuel, rfl⟩ := Nat.exists_eq_add_of_le' hpositive
    rw [tree_scalar hblanks ⟨c, rest ++ tail, by rw [hcs, List.cons_append], hc⟩]
    exact hscalar level tail hends

section

variable {depth level outer fuel : Nat} {blanks tail : List Char}

theorem endsNumber_line (level : Nat) (tail : List Char) : EndsNumber (line level ++ tail) := by
  rintro c hc
  cases hc
  decide

theorem endsNumber_following {α : Type} {part : α → List Char} (parts : List α)
    (hends : EndsNumber tail) : EndsNumber (following part level parts ++ tail) := by
  cases parts with
  | nil => exact hends
  | cons a rest =>
    rintro c hc
    cases hc
    decide

theorem skipSpace_line_cons {c : Char} (hc : isSpace c = false) (level : Nat) (cs : List Char) :
    skipSpace (line level ++ c :: cs) = c :: cs := by
  rw [skipSpace_append (areBlank_line level), skipSpace_cons hc]

/-- Items are read back one after another, up to the bracket that closes them. -/
theorem treeItems_written {item : Json} {rest done : List Json}
    (h : ∀ i ∈ item :: rest, Rereads depth i) (hblanks : AreBlank blanks)
    (hfuel : (prettyChars level item ++ following (prettyChars level) level rest).length < fuel) :
    treeItems fuel depth done (blanks ++ (prettyChars level item ++
        (following (prettyChars level) level rest ++ (line outer ++ ']' :: tail)))) =
      .ok (.array (done.reverse ++ item :: rest), tail) := by
  induction rest generalizing item done fuel blanks with
  | nil =>
    obtain ⟨fuel, rfl⟩ := Nat.exists_eq_add_of_le' (Nat.one_le_of_lt hfuel)
    have htree := (h item List.mem_cons_self).tree_eq fuel level blanks (line outer ++ ']' :: tail)
      (by simpa [Nat.lt_succ_iff] using hfuel) hblanks (endsNumber_line _ _)
    rw [treeItems, following_nil, List.nil_append, htree]
    dsimp only
    rw [skipSpace_line_cons rfl, List.reverse_cons]
    rfl
  | cons next rest ih =>
    obtain ⟨fuel, rfl⟩ := Nat.exists_eq_add_of_le' (Nat.one_le_of_lt hfuel)
    obtain ⟨hitem, hrest⟩ := List.forall_mem_cons.mp h
    simp only [following_cons, List.length_append, List.length_cons] at hfuel
    have htree := hitem.tree_eq fuel level blanks
      (following (prettyChars level) level (next :: rest) ++ (line outer ++ ']' :: tail))
      (by omega) hblanks (endsNumber_following _ (endsNumber_line _ _))
    rw [treeItems, htree]
    dsimp only
    rw [following_cons, List.append_assoc, List.cons_append, skipSpace_cons rfl, List.append_assoc]
    have hnext : treeItems fuel depth (item :: done) (line level ++ (prettyChars level next ++
        (following (prettyChars level) level rest ++ (line outer ++ ']' :: tail)))) =
          .ok (.array ((item :: done).reverse ++ next :: rest), tail) :=
      ih hrest (areBlank_line level) (by rw [List.length_append]; omega)
    rw [List.reverse_cons, List.append_assoc, List.singleton_append] at hnext
    exact hnext

/-- Members are read back one after another, up to the bracket that closes them. -/
theorem treeMembers_written {m : String × Json} {rest done : Members}
    (h : ∀ n ∈ m :: rest, Rereads depth n.2) (hblanks : AreBlank blanks)
    (hfuel : (memberChars level m ++ following (memberChars level) level rest).length < fuel) :
    treeMembers fuel depth done (blanks ++ (memberChars level m ++
        (following (memberChars level) level rest ++ (line outer ++ '\x7d' :: tail)))) =
      .ok (.object (done.reverse ++ m :: rest), tail) := by
  have hkey : ∀ (m : String × Json) {blanks : List Char} (tail : List Char), AreBlank blanks →
      keyAndColon (blanks ++ (memberChars level m ++ tail)) =
        .ok (m.1, [' '] ++ (prettyChars level m.2 ++ tail)) := by
    intro m blanks tail hblanks
    rw [memberChars, List.append_assoc]
    exact keyAndColon_quoted hblanks m.1 _
  induction rest generalizing m done fuel blanks with
  | nil =>
    obtain ⟨fuel, rfl⟩ := Nat.exists_eq_add_of_le' (Nat.one_le_of_lt hfuel)
    simp only [following_nil, memberChars, List.length_append, List.length_cons] at hfuel
    have htree := (h m List.mem_cons_self).tree_eq fuel level [' '] (line outer ++ '\x7d' :: tail)
      (by omega) areBlank_space (endsNumber_line _ _)
    rw [treeMembers, hkey m _ hblanks]
    dsimp only
    rw [following_nil, List.nil_append, htree]
    dsimp only
    rw [skipSpace_line_cons rfl, List.reverse_cons]
    rfl
  | cons next rest ih =>
    obtain ⟨fuel, rfl⟩ := Nat.exists_eq_add_of_le' (Nat.one_le_of_lt hfuel)
    obtain ⟨hm, hrest⟩ := List.forall_mem_cons.mp h
    rw [memberChars] at hfuel
    simp only [following_cons, List.length_append, List.length_cons] at hfuel
    have htree := hm.tree_eq fuel level [' ']
      (following (memberChars level) level (next :: rest) ++ (line outer ++ '\x7d' :: tail))
      (by omega) areBlank_space (endsNumber_following _ (endsNumber_line _ _))
    rw [treeMembers, hkey m _ hblanks]
    dsimp only
    rw [htree]
    dsimp only
    rw [following_cons, List.append_assoc, List.cons_append, skipSpace_cons rfl, List.append_assoc]
    have hnext : treeMembers fuel depth (m :: done) (line level ++ (memberChars level next ++
        (following (memberChars level) level rest ++ (line outer ++ '\x7d' :: tail)))) =
          .ok (.object ((m :: done).reverse ++ next :: rest), tail) :=
      ih hrest (areBlank_line level) (by rw [List.length_append]; omega)
    rw [List.reverse_cons, List.append_assoc, List.singleton_append] at hnext
    exact hnext

theorem tree_bracket {cs rest : List Char} (h : skipSpace cs = '[' :: rest)
    (hne : ∀ more, skipSpace rest ≠ ']' :: more) :
    tree (fuel + 1) (depth + 1) cs = treeItems fuel depth [] (skipSpace rest) := by
  rw [tree, h]
  split
  · next more hmore =>
    obtain rfl : rest = more := (List.cons.inj hmore).2
    dsimp only
    split
    · next hclose => exact absurd hclose (hne _)
    · rfl
  · next hmore => exact absurd (List.cons.inj hmore).1 (by decide)
  · next hbracket _ => exact absurd rfl (hbracket rest)

theorem tree_brace {cs rest : List Char} (h : skipSpace cs = '\x7b' :: rest)
    (hne : ∀ more, skipSpace rest ≠ '\x7d' :: more) :
    tree (fuel + 1) (depth + 1) cs = treeMembers fuel depth [] (skipSpace rest) := by
  rw [tree, h]
  split
  · next hmore => exact absurd (List.cons.inj hmore).1 (by decide)
  · next more hmore =>
    obtain rfl : rest = more := (List.cons.inj hmore).2
    dsimp only
    split
    · next hclose => exact absurd hclose (hne _)
    · rfl
  · next _ hbrace => exact absurd rfl (hbrace rest)

theorem rereads_array {items : List Json} (h : ∀ item ∈ items, Rereads depth item) :
    Rereads (depth + 1) (.array items) := by
  cases items with
  | nil =>
    refine ⟨fun level => ⟨'[', [']'], prettyChars_array_nil level, by decide, by decide⟩, ?_⟩
    intro fuel level blanks tail hfuel hblanks _
    rw [prettyChars_array_nil] at hfuel ⊢
    obtain ⟨fuel, rfl⟩ := Nat.exists_eq_add_of_le' (Nat.one_le_of_lt hfuel)
    rw [tree, skipSpace_append hblanks]
    rfl
  | cons item rest =>
    refine ⟨fun level => ⟨'[', _, prettyChars_array_cons level item rest, by decide, by decide⟩, ?_⟩
    intro fuel level blanks tail hfuel hblanks _
    rw [prettyChars_array_cons] at hfuel ⊢
    obtain ⟨fuel, rfl⟩ := Nat.exists_eq_add_of_le' (Nat.one_le_of_lt hfuel)
    have hitems : treeItems fuel depth [] ([] ++ (prettyChars (level + 1) item ++
        (following (prettyChars (level + 1)) (level + 1) rest ++ (line level ++ ']' :: tail)))) =
          .ok (.array (item :: rest), tail) := by
      refine treeItems_written h areBlank_nil ?_
      simp only [listed, List.length_append, List.length_cons] at hfuel ⊢
      omega
    obtain ⟨c, cs, hcs, hspace, hclose⟩ := (h item List.mem_cons_self).starts (level + 1)
    -- The text between the brackets starts with the first item after the line end.
    have htext : skipSpace (blanks ++ ('[' :: (listed (prettyChars (level + 1)) (level + 1)
        (item :: rest) ++ line level ++ [']']) ++ tail)) = '[' :: (line (level + 1) ++
          (prettyChars (level + 1) item ++ (following (prettyChars (level + 1)) (level + 1) rest ++
            (line level ++ ']' :: tail)))) := by
      rw [skipSpace_append hblanks, List.cons_append, skipSpace_cons rfl]
      simp [listed]
    have hfirst : ∀ more, skipSpace (line (level + 1) ++ (prettyChars (level + 1) item ++ more)) =
        prettyChars (level + 1) item ++ more := by
      intro more
      rw [hcs, List.cons_append, skipSpace_line_cons hspace]
    rw [tree_bracket htext, hfirst]
    · exact hitems
    · intro more heq
      rw [hfirst, hcs, List.cons_append] at heq
      exact hclose (List.cons_eq_cons.mp heq).1

theorem rereads_object {members : Members} (h : ∀ m ∈ members, Rereads depth m.2) :
    Rereads (depth + 1) (.object members) := by
  cases members with
  | nil =>
    refine ⟨fun level => ⟨'\x7b', ['\x7d'], prettyChars_object_nil level, by decide, by decide⟩, ?_⟩
    intro fuel level blanks tail hfuel hblanks _
    rw [prettyChars_object_nil] at hfuel ⊢
    obtain ⟨fuel, rfl⟩ := Nat.exists_eq_add_of_le' (Nat.one_le_of_lt hfuel)
    rw [tree, skipSpace_append hblanks]
    rfl
  | cons m rest =>
    refine
      ⟨fun level => ⟨'\x7b', _, prettyChars_object_cons level m rest, by decide, by decide⟩, ?_⟩
    intro fuel level blanks tail hfuel hblanks _
    rw [prettyChars_object_cons] at hfuel ⊢
    obtain ⟨fuel, rfl⟩ := Nat.exists_eq_add_of_le' (Nat.one_le_of_lt hfuel)
    have hmembers : treeMembers fuel depth [] ([] ++ (memberChars (level + 1) m ++
        (following (memberChars (level + 1)) (level + 1) rest ++ (line level ++ '\x7d' :: tail)))) =
          .ok (.object (m :: rest), tail) := by
      refine treeMembers_written h areBlank_nil ?_
      simp only [listed, List.length_append, List.length_cons] at hfuel ⊢
      omega
    have htext : skipSpace (blanks ++ ('\x7b' :: (listed (memberChars (level + 1)) (level + 1)
        (m :: rest) ++ line level ++ ['\x7d']) ++ tail)) = '\x7b' :: (line (level + 1) ++
          (memberChars (level + 1) m ++ (following (memberChars (level + 1)) (level + 1) rest ++
            (line level ++ '\x7d' :: tail)))) := by
      rw [skipSpace_append hblanks, List.cons_append, skipSpace_cons rfl]
      simp [listed]
    have hfirst : ∀ more, skipSpace (line (level + 1) ++ (memberChars (level + 1) m ++ more)) =
        memberChars (level + 1) m ++ more := by
      intro more
      exact skipSpace_line_cons rfl _ _
    rw [tree_brace htext, hfirst]
    · exact hmembers
    · intro more heq
      rw [hfirst] at heq
      cases heq

theorem startsScalar_quoted (s : String) : StartsScalar (quoted s) :=
  ⟨'"', _, rfl, by decide⟩

theorem rereads {value : Json} (h : Fits Number.IsToken depth value) : Rereads depth value := by
  induction h with
  | null depth =>
    refine rereads_scalar (fun level => ?_) (fun level tail _ => ?_)
    · rw [prettyChars_null]
      exact ⟨'n', _, rfl, by decide⟩
    · rw [prettyChars_null]
      rfl
  | bool depth b =>
    cases b with
    | false =>
      refine rereads_scalar (fun level => ?_) (fun level tail _ => ?_)
      · rw [prettyChars_false]
        exact ⟨'f', _, rfl, by decide⟩
      · rw [prettyChars_false]
        rfl
    | true =>
      refine rereads_scalar (fun level => ?_) (fun level tail _ => ?_)
      · rw [prettyChars_true]
        exact ⟨'t', _, rfl, by decide⟩
      · rw [prettyChars_true]
        rfl
  | number depth htoken =>
    refine rereads_scalar (fun level => ?_) (fun level tail hends => ?_)
    · rw [prettyChars_number]
      exact startsScalar_of_number htoken
    · rw [prettyChars_number]
      exact (scalar_stops htoken).2 tail hends
  | string depth s =>
    refine rereads_scalar (fun level => ?_) (fun level tail _ => ?_)
    · rw [prettyChars_string]
      exact startsScalar_quoted s
    · rw [prettyChars_string]
      exact scalar_quoted s tail
  | array _ ih => exact rereads_array ih
  | object _ ih => exact rereads_object ih

end

end ScoreDeploy.Json
