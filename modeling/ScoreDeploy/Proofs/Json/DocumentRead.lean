import ScoreDeploy.Proofs.Json.Literal
import ScoreDeploy.Proofs.Transaction.Parameters

/-!
# Reading documents

If a reader takes anything from the front of a text of a document, it takes that text, whatever
blanks stand in it and whatever follows. Where all numbers are integer literals, the wire form of
what was read is that of the document, and only null is read as null, and a text as that text.
-/

namespace ScoreDeploy.Json

variable {cs rest tail before after : List Char} {doc : Document} {value : Json}
variable {fuel depth : Nat} {name : String}

/-! ### Texts -/

theorem hexNumber_cons {p q r t : Char} {n : Nat} (h : hexNumber? p q r t = some n)
    (cs : List Char) : hexNumber (p :: q :: r :: t :: cs) = .ok (n, cs) := by
  rw [hexNumber, h]

theorem escape_letter {e c : Char} (h : escapeLetter? e = some c) (cs : List Char) :
    escape (e :: cs) = .ok (c, cs) := by
  have hu : e ≠ 'u' := by
    rintro rfl
    cases h
  rw [escape, h]
  exact hu

theorem escape_code {p q r t : Char} {n : Nat} (h : hexNumber? p q r t = some n)
    (hn : n < 0xD800 ∨ 0xDFFF < n) (cs : List Char) :
    escape ('u' :: p :: q :: r :: t :: cs) = .ok (Char.ofNat n, cs) := by
  have hlow : ¬(0xDC00 ≤ n ∧ n ≤ 0xDFFF) := by omega
  have hhigh : ¬(0xD800 ≤ n ∧ n ≤ 0xDBFF) := by omega
  simp only [escape, hexNumber_cons h, if_neg hlow, if_neg hhigh]

theorem escape_pair {p q r t p' q' r' t' : Char} {high low : Nat}
    (h : hexNumber? p q r t = some high) (hhigh : 0xD800 ≤ high ∧ high ≤ 0xDBFF)
    (h' : hexNumber? p' q' r' t' = some low) (hlow : 0xDC00 ≤ low ∧ low ≤ 0xDFFF)
    (cs : List Char) :
    escape ('u' :: p :: q :: r :: t :: '\\' :: 'u' :: p' :: q' :: r' :: t' :: cs) =
      .ok (Char.ofNat (0x10000 + (high - 0xD800) * 0x400 + (low - 0xDC00)), cs) := by
  have hnot : ¬(0xDC00 ≤ high ∧ high ≤ 0xDFFF) := by omega
  simp only [escape, hexNumber_cons h, if_neg hnot, if_pos hhigh, secondHalf, hexNumber_cons h',
    if_pos hlow]

theorem textFrom_isEscaped {s : List Char} (h : IsEscaped cs s) (hfuel : cs.length < fuel)
    (done tail : List Char) :
    textFrom fuel done (cs ++ '"' :: tail) = .ok (String.ofList (done.reverse ++ s), tail) := by
  induction h generalizing fuel done with
  | nil =>
    obtain ⟨fuel, rfl⟩ := Nat.exists_eq_add_of_le' hfuel
    rw [List.append_nil]
    rfl
  | plain hquote hslash hcontrol _ ih =>
    obtain ⟨fuel, rfl⟩ := Nat.exists_eq_add_of_le' (Nat.one_le_of_lt hfuel)
    rw [List.cons_append, textFrom, if_neg hcontrol, ih (Nat.lt_of_succ_lt_succ hfuel),
      List.reverse_cons, List.append_assoc, List.singleton_append]
    · exact hquote
    · exact hslash
  | letter hletter _ ih =>
    obtain ⟨fuel, rfl⟩ := Nat.exists_eq_add_of_le' (Nat.one_le_of_lt hfuel)
    simp only [List.length_cons] at hfuel
    simp only [List.cons_append, textFrom, escape_letter hletter]
    rw [ih (by omega), List.reverse_cons, List.append_assoc, List.singleton_append]
  | code hcode hn _ ih =>
    obtain ⟨fuel, rfl⟩ := Nat.exists_eq_add_of_le' (Nat.one_le_of_lt hfuel)
    simp only [List.length_cons] at hfuel
    simp only [List.cons_append, textFrom, escape_code hcode hn]
    rw [ih (by omega), List.reverse_cons, List.append_assoc, List.singleton_append]
  | pair hhigh hle hge hlow hle' hge' _ ih =>
    obtain ⟨fuel, rfl⟩ := Nat.exists_eq_add_of_le' (Nat.one_le_of_lt hfuel)
    simp only [List.length_cons] at hfuel
    simp only [List.cons_append, textFrom, escape_pair hhigh ⟨hle, hge⟩ hlow ⟨hle', hge'⟩]
    rw [ih (by omega), List.reverse_cons, List.append_assoc, List.singleton_append]

theorem textBody_isEscaped (h : IsEscaped cs name.toList) (tail : List Char) :
    textBody (cs ++ '"' :: tail) = .ok (name, tail) := by
  have hlength : cs.length < (cs ++ '"' :: tail).length + 1 := by
    rw [List.length_append]
    omega
  rw [textBody, textFrom_isEscaped h hlength, List.reverse_nil, List.nil_append,
    String.ofList_toList]

theorem skipText_isEscaped {s : List Char} (h : IsEscaped cs s) (hfuel : cs.length < fuel)
    (tail : List Char) : skipText fuel (cs ++ '"' :: tail) = .ok tail := by
  induction h generalizing fuel with
  | nil =>
    obtain ⟨fuel, rfl⟩ := Nat.exists_eq_add_of_le' hfuel
    rfl
  | plain hquote hslash hcontrol _ ih =>
    obtain ⟨fuel, rfl⟩ := Nat.exists_eq_add_of_le' (Nat.one_le_of_lt hfuel)
    rw [List.cons_append, skipText, if_neg hcontrol, ih (Nat.lt_of_succ_lt_succ hfuel)]
    · exact hquote
    · rintro rfl
      exact absurd rfl hslash
    · rintro _ rfl
      exact absurd rfl hslash
    · rintro _ _ rfl
      exact absurd rfl hslash
  | letter hletter _ ih =>
    obtain ⟨fuel, rfl⟩ := Nat.exists_eq_add_of_le' (Nat.one_le_of_lt hfuel)
    simp only [List.length_cons] at hfuel
    rw [List.cons_append, List.cons_append, skipText, hletter]
    · exact ih (by omega)
    · rintro rfl
      cases hletter
  | code hcode hn _ ih =>
    obtain ⟨fuel, rfl⟩ := Nat.exists_eq_add_of_le' (Nat.one_le_of_lt hfuel)
    simp only [List.length_cons] at hfuel
    simp only [List.cons_append, skipText, hexNumber_cons hcode]
    exact ih (by omega)
  | pair hhigh hle hge hlow hle' hge' _ ih =>
    -- Each half of the pair is passed over as a character of its own, hence two steps.
    obtain ⟨fuel, rfl⟩ : ∃ more, fuel = more + 2 :=
      Nat.exists_eq_add_of_le' (by simp only [List.length_cons] at hfuel; omega)
    simp only [List.length_cons] at hfuel
    simp only [List.cons_append, skipText, hexNumber_cons hhigh, hexNumber_cons hlow]
    exact ih (by omega)

/-! ### Keys -/

theorem skipSpace_skipSpace (cs : List Char) : skipSpace (skipSpace cs) = skipSpace cs := by
  induction cs with
  | nil => rfl
  | cons c cs ih =>
    cases hc : isSpace c with
    | true =>
      have hskip : skipSpace (c :: cs) = skipSpace cs := List.dropWhile_cons_of_pos hc
      rw [hskip, ih]
    | false => rw [skipSpace_cons hc, skipSpace_cons hc]

theorem colon_blanks (h : AreBlank before) (tail : List Char) :
    colon (before ++ ':' :: tail) = .ok tail := by
  rw [colon, skipSpace_append h, skipSpace_cons rfl]
  rfl

theorem exists_key_eq (h : IsKeyText cs name) (tail : List Char) :
    ∃ rest, key (cs ++ ':' :: tail) = .ok (name, rest) ∧ colon rest = .ok tail := by
  obtain ⟨before, cs, after, hbefore, hafter, hescaped, rfl⟩ := h
  refine ⟨after ++ ':' :: tail, ?_, colon_blanks hafter tail⟩
  rw [key, List.append_assoc, skipSpace_append hbefore, List.cons_append, skipSpace_cons rfl,
    List.append_assoc, List.cons_append]
  exact textBody_isEscaped hescaped _

theorem keyAndColon_eq (h : IsKeyText cs name) (tail : List Char) :
    keyAndColon (cs ++ ':' :: tail) = .ok (name, tail) := by
  obtain ⟨rest, hkey, hcolon⟩ := exists_key_eq h tail
  rw [keyAndColon, hkey, Except.ok_bind]
  dsimp only
  rw [hcolon]
  rfl

theorem skipKey_eq (h : IsKeyText cs name) (tail : List Char) :
    skipKey (cs ++ ':' :: tail) = .ok tail := by
  obtain ⟨before, cs, after, hbefore, hafter, hescaped, rfl⟩ := h
  have hlength : cs.length < (cs ++ '"' :: (after ++ ':' :: tail)).length + 1 := by
    rw [List.length_append]
    omega
  rw [skipKey, List.append_assoc, skipSpace_append hbefore, List.cons_append, skipSpace_cons rfl,
    List.append_assoc, List.cons_append]
  change skipText _ _ >>= _ = _
  rw [skipText_isEscaped hescaped hlength, Except.ok_bind]
  exact colon_blanks hafter tail

/-! ### The front of a text -/

theorem startsScalar_signChars (negative : Bool) (k : Nat) (cs : List Char) :
    StartsScalar (signChars negative ++ (Nat.toDigits 10 k ++ cs)) := by
  cases negative with
  | true => exact ⟨'-', _, rfl, by decide⟩
  | false =>
    obtain ⟨c, digits, hcons, hdigit, -⟩ := exists_toDigits_eq_cons k
    rw [hcons]
    refine ⟨c, digits ++ cs, rfl, IsNumeric.isSpace_eq (.inl hdigit), ?_⟩
    refine ⟨?_, ?_, ?_⟩
    all_goals
      rintro rfl
      exact absurd hdigit (by decide)

/-- Behind blanks a text starts with a character that does not close an array. -/
theorem IsTextOf.exists_front (h : IsTextOf cs doc) :
    ∃ c rest, c ≠ ']' ∧ ∀ tail, skipSpace (cs ++ tail) = c :: (rest ++ tail) := by
  have hfront : ∀ {c : Char} {rest : List Char}, isSpace c = false → c ≠ ']' →
      ∃ d more, d ≠ ']' ∧ ∀ tail, skipSpace (c :: rest ++ tail) = d :: (more ++ tail) :=
    fun hspace hclose => ⟨_, _, hclose, fun _ => skipSpace_cons hspace _⟩
  have hnumber : ∀ (negative : Bool) (k : Nat) (more : List Char), ∃ c rest, c ≠ ']' ∧ ∀ tail,
      skipSpace (signChars negative ++ (Nat.toDigits 10 k ++ more) ++ tail) =
        c :: (rest ++ tail) := by
    intro negative k more
    obtain ⟨c, rest, hcs, hspace, -, -, hclose⟩ := startsScalar_signChars negative k more
    rw [hcs]
    exact hfront hspace hclose
  induction h with
  | integer negative n =>
    have h := hnumber negative n []
    rwa [List.append_nil] at h
  | decimal negative n => exact hnumber negative n _
  | @blanks before cs after doc hbefore _ _ ih =>
    obtain ⟨c, rest, hclose, hskip⟩ := ih
    refine ⟨c, rest ++ after, hclose, fun tail => ?_⟩
    rw [List.append_assoc, skipSpace_append hbefore, List.append_assoc, hskip, List.append_assoc]
  | _ => exact hfront (by decide) (by decide)

/-! ### Values -/

theorem endsNumber_nil : EndsNumber [] := by
  rintro c ⟨⟩

theorem endsNumber_cons {c : Char} (h : c.isDigit = false ∧ c ≠ '.' ∧ c ≠ 'e' ∧ c ≠ 'E')
    (cs : List Char) : EndsNumber (c :: cs) := by
  rintro d hd
  cases hd
  exact h

theorem AreBlank.endsNumber_append (h : AreBlank after) (hends : EndsNumber tail) :
    EndsNumber (after ++ tail) := by
  cases after with
  | nil => exact hends
  | cons c after =>
    have hspace := h c List.mem_cons_self
    apply endsNumber_cons
    simp only [isSpace, Bool.or_eq_true, beq_iff_eq] at hspace
    rcases hspace with ((rfl | rfl) | rfl) | rfl <;> decide

theorem tree_skipSpace (fuel depth : Nat) (cs : List Char) :
    tree fuel depth (skipSpace cs) = tree fuel depth cs := by
  cases fuel with
  | zero => rfl
  | succ fuel => rw [tree, tree, skipSpace_skipSpace]

theorem tree_blanks (h : AreBlank before) (fuel depth : Nat) (cs : List Char) :
    tree fuel depth (before ++ cs) = tree fuel depth cs := by
  rw [← tree_skipSpace, skipSpace_append h, tree_skipSpace]

theorem treeItems_skipSpace (fuel depth : Nat) (done : List Json) (cs : List Char) :
    treeItems fuel depth done (skipSpace cs) = treeItems fuel depth done cs := by
  cases fuel with
  | zero => rfl
  | succ fuel => rw [treeItems, treeItems, tree_skipSpace]

theorem treeMembers_skipSpace (fuel depth : Nat) (done : Members) (cs : List Char) :
    treeMembers fuel depth done (skipSpace cs) = treeMembers fuel depth done cs := by
  cases fuel with
  | zero => rfl
  | succ fuel =>
    have hkey : keyAndColon (skipSpace cs) = keyAndColon cs := by
      rw [keyAndColon, keyAndColon, key, key, skipSpace_skipSpace]
    rw [treeMembers, treeMembers, hkey]

/-- If the value is null or a text, the document says the same. -/
def Document.Underlies (doc : Document) : Json → Prop
  | .null => doc = .null
  | .string s => doc = .text s
  | _ => True

theorem Document.Underlies.canonical (h : doc.Underlies value) : doc.Underlies value.canonical := by
  cases value with
  | array => trivial
  | object => trivial
  | _ => exact h

/-- Whatever the reader makes of these characters, it takes them all, and what it makes of them has
the wire form of the document. Null and texts are made of nothing else. -/
def ReadsAs (cs : List Char) (doc : Document) : Prop :=
  ∀ {fuel depth : Nat} {tail rest : List Char} {value : Json}, EndsNumber tail →
    tree fuel depth (cs ++ tail) = .ok (value, rest) →
      skipSpace rest = skipSpace tail ∧ (doc.IsIntegral → Params.wireValue value = doc.wire) ∧
        doc.Underlies value

theorem readsAs_of_scalar (hstarts : ∀ tail, StartsScalar (cs ++ tail))
    (hscalar : ∀ {tail rest value}, EndsNumber tail → scalar (cs ++ tail) = .ok (value, rest) →
      rest = tail ∧ (doc.IsIntegral → Params.wireValue value = doc.wire) ∧ doc.Underlies value) :
    ReadsAs cs doc := by
  intro fuel depth tail rest value hends hread
  cases fuel with
  | zero => cases hread
  | succ fuel =>
    have htree := tree_scalar areBlank_nil (hstarts tail) fuel depth
    rw [List.nil_append] at htree
    rw [htree] at hread
    obtain ⟨rfl, hvalue⟩ := hscalar hends hread
    exact ⟨rfl, hvalue⟩

theorem separated_cons_cons (first second : List Char) (parts : List (List Char)) :
    separated (first :: second :: parts) = first ++ ',' :: separated (second :: parts) := by
  simp [separated, List.intercalate]

theorem separated_cons (first : List Char) (parts : List (List Char)) :
    separated (first :: parts) = first ++ parts.flatMap fun part => ',' :: part := by
  induction parts generalizing first with
  | nil => simp [separated]
  | cons second parts ih => rw [separated_cons_cons, ih, List.flatMap_cons, List.cons_append]

/-- The next item is read, and what follows it decides. -/
theorem treeItems_item {done : List Json} {c : Char} {more : List Char} (h : ReadsAs cs doc)
    (hc : isSpace c = false) (hends : EndsNumber (c :: more))
    (hread : treeItems fuel depth done (cs ++ c :: more) = .ok (value, rest)) :
    ∃ steps item, (doc.IsIntegral → Params.wireValue item = doc.wire) ∧
      (match c :: more with
        | ',' :: rest => treeItems steps depth (item :: done) rest
        | ']' :: rest => .ok (.array (item :: done).reverse, rest)
        | [] => .error .unexpectedEnd
        | _ => .error .noComma) = .ok (value, rest) := by
  cases fuel with
  | zero => cases hread
  | succ fuel =>
    rw [treeItems] at hread
    cases hitem : tree fuel depth (cs ++ c :: more) with
    | error f =>
      rw [hitem] at hread
      cases hread
    | ok result =>
      obtain ⟨item, left⟩ := result
      obtain ⟨hleft, hwire, -⟩ := h hends hitem
      rw [hitem] at hread
      dsimp only at hread
      rw [hleft, skipSpace_cons hc] at hread
      exact ⟨fuel, item, hwire, hread⟩

/-- The items of an array are read one after another, up to the bracket that closes them. -/
theorem treeItems_separated {first : List Char × Document} {others : List (List Char × Document)}
    {done : List Json} (h : ∀ p ∈ first :: others, ReadsAs p.1 p.2)
    (hread : treeItems fuel depth done
      (separated ((first :: others).map Prod.fst) ++ ']' :: tail) = .ok (value, rest)) :
    rest = tail ∧ ∃ items, value = .array (done.reverse ++ items) ∧
      ((∀ p ∈ first :: others, p.2.IsIntegral) →
        items.map Params.wireValue = (first :: others).map fun p => p.2.wire) := by
  induction others generalizing first done fuel with
  | nil =>
    have htext : separated ([first].map Prod.fst) = first.1 := by simp [separated]
    rw [htext] at hread
    obtain ⟨_, item, hwire, hclose⟩ := treeItems_item (h first List.mem_cons_self) (by decide)
      (endsNumber_cons (by decide) _) hread
    obtain ⟨hvalue, hrest⟩ := Prod.mk.inj (Except.ok.inj hclose)
    refine ⟨hrest.symm, [item], ?_, fun hintegral => ?_⟩
    · rw [← hvalue, List.reverse_cons]
    · rw [List.map_singleton, hwire (hintegral first List.mem_cons_self), List.map_singleton]
  | cons second others ih =>
    obtain ⟨hfirst, hothers⟩ := List.forall_mem_cons.mp h
    rw [List.map_cons, List.map_cons, separated_cons_cons, List.append_assoc,
      List.cons_append] at hread
    obtain ⟨steps, item, hwire, hnext⟩ := treeItems_item hfirst (by decide)
      (endsNumber_cons (by decide) _) hread
    obtain ⟨hrest, items, hvalue, hitems⟩ := ih hothers hnext
    refine ⟨hrest, item :: items, ?_, fun hintegral => ?_⟩
    · rw [hvalue, List.reverse_cons, List.append_assoc, List.singleton_append]
    · obtain ⟨hintegral, hintegrals⟩ := List.forall_mem_cons.mp hintegral
      rw [List.map_cons, hwire hintegral, hitems hintegrals, List.map_cons (a := first)]

/-- The next member is read, and what follows it decides. -/
theorem treeMembers_member {done : Members} {m : MemberText} {c : Char} {more : List Char}
    (hkey : IsKeyText m.keyChars m.name) (h : ReadsAs m.valueChars m.value)
    (hc : isSpace c = false) (hends : EndsNumber (c :: more))
    (hread : treeMembers fuel depth done (m.chars ++ c :: more) = .ok (value, rest)) :
    ∃ steps item, (m.value.IsIntegral → Params.wireValue item = m.value.wire) ∧
      (match c :: more with
        | ',' :: rest => treeMembers steps depth ((m.name, item) :: done) rest
        | '\x7d' :: rest => .ok (.object ((m.name, item) :: done).reverse, rest)
        | [] => .error .unexpectedEnd
        | _ => .error .noComma) = .ok (value, rest) := by
  cases fuel with
  | zero => cases hread
  | succ fuel =>
    rw [treeMembers, MemberText.chars, List.append_assoc, List.cons_append,
      keyAndColon_eq hkey] at hread
    dsimp only at hread
    cases hitem : tree fuel depth (m.valueChars ++ c :: more) with
    | error f =>
      rw [hitem] at hread
      cases hread
    | ok result =>
      obtain ⟨item, left⟩ := result
      obtain ⟨hleft, hwire, -⟩ := h hends hitem
      rw [hitem] at hread
      dsimp only at hread
      rw [hleft, skipSpace_cons hc] at hread
      exact ⟨fuel, item, hwire, hread⟩

/-- The members of an object are read one after another, up to the bracket that closes them. -/
theorem treeMembers_separated {first : MemberText} {others : List MemberText} {done : Members}
    (hkeys : ∀ m ∈ first :: others, IsKeyText m.keyChars m.name)
    (h : ∀ m ∈ first :: others, ReadsAs m.valueChars m.value)
    (hread : treeMembers fuel depth done
      (separated ((first :: others).map MemberText.chars) ++ '\x7d' :: tail) = .ok (value, rest)) :
    rest = tail ∧ ∃ members, value = .object (done.reverse ++ members) ∧
      ((∀ m ∈ first :: others, m.value.IsIntegral) →
        Params.wireForm members = (first :: others).map fun m => (m.name, m.value.wire)) := by
  -- A name that occurs twice is kept twice here; only the canonical form drops the earlier one.
  induction others generalizing first done fuel with
  | nil =>
    have htext : separated ([first].map MemberText.chars) = first.chars := by simp [separated]
    rw [htext] at hread
    obtain ⟨_, item, hwire, hclose⟩ := treeMembers_member (hkeys first List.mem_cons_self)
      (h first List.mem_cons_self) (by decide) (endsNumber_cons (by decide) _) hread
    obtain ⟨hvalue, hrest⟩ := Prod.mk.inj (Except.ok.inj hclose)
    refine ⟨hrest.symm, [(first.name, item)], ?_, fun hintegral => ?_⟩
    · rw [← hvalue, List.reverse_cons]
    · rw [Params.wireForm_eq_map, List.map_singleton, hwire (hintegral first List.mem_cons_self),
        List.map_singleton]
  | cons second others ih =>
    obtain ⟨hkey, hkeys⟩ := List.forall_mem_cons.mp hkeys
    obtain ⟨hfirst, hothers⟩ := List.forall_mem_cons.mp h
    rw [List.map_cons, List.map_cons, separated_cons_cons, List.append_assoc,
      List.cons_append] at hread
    obtain ⟨steps, item, hwire, hnext⟩ := treeMembers_member hkey hfirst (by decide)
      (endsNumber_cons (by decide) _) hread
    obtain ⟨hrest, members, hvalue, hmembers⟩ := ih hkeys hothers hnext
    refine ⟨hrest, (first.name, item) :: members, ?_, fun hintegral => ?_⟩
    · rw [hvalue, List.reverse_cons, List.append_assoc, List.singleton_append]
    · obtain ⟨hintegral, hintegrals⟩ := List.forall_mem_cons.mp hintegral
      have hrest := hmembers hintegrals
      rw [Params.wireForm_eq_map] at hrest ⊢
      rw [List.map_cons, hwire hintegral, hrest]
      rfl

theorem not_isIntegral_decimal : ¬Document.decimal.IsIntegral := by
  intro h
  cases h

theorem isIntegral_array_iff {items : List Document} :
    (Document.array items).IsIntegral ↔ ∀ item ∈ items, item.IsIntegral :=
  ⟨fun h => by cases h; assumption, .array⟩

theorem isIntegral_object_iff {members : List (String × Document)} :
    (Document.object members).IsIntegral ↔ ∀ m ∈ members, m.2.IsIntegral :=
  ⟨fun h => by cases h; assumption, .object⟩

theorem tree_noItems (h : AreBlank before)
    (hread : tree fuel depth ('[' :: (before ++ ']' :: tail)) = .ok (value, rest)) :
    value = .array [] ∧ rest = tail := by
  cases fuel with
  | zero => cases hread
  | succ fuel =>
    cases depth with
    | zero =>
      rw [tree, skipSpace_cons rfl] at hread
      cases hread
    | succ depth =>
      have hclose : skipSpace (before ++ ']' :: tail) = ']' :: tail := by
        rw [skipSpace_append h, skipSpace_cons rfl]
      simp only [tree, skipSpace_cons (c := '[') rfl, hclose] at hread
      obtain ⟨rfl, rfl⟩ := Prod.mk.inj (Except.ok.inj hread)
      exact ⟨rfl, rfl⟩

theorem tree_noMembers (h : AreBlank before)
    (hread : tree fuel depth ('\x7b' :: (before ++ '\x7d' :: tail)) = .ok (value, rest)) :
    value = .object [] ∧ rest = tail := by
  cases fuel with
  | zero => cases hread
  | succ fuel =>
    cases depth with
    | zero =>
      rw [tree, skipSpace_cons rfl] at hread
      cases hread
    | succ depth =>
      have hclose : skipSpace (before ++ '\x7d' :: tail) = '\x7d' :: tail := by
        rw [skipSpace_append h, skipSpace_cons rfl]
      simp only [tree, skipSpace_cons (c := '\x7b') rfl, hclose] at hread
      obtain ⟨rfl, rfl⟩ := Prod.mk.inj (Except.ok.inj hread)
      exact ⟨rfl, rfl⟩

/-- Brackets that hold something are read by reading the items. -/
theorem exists_treeItems_eq (hne : ∀ more, skipSpace cs ≠ ']' :: more)
    (hread : tree fuel depth ('[' :: cs) = .ok (value, rest)) :
    ∃ steps deep, treeItems steps deep [] cs = .ok (value, rest) := by
  cases fuel with
  | zero => cases hread
  | succ fuel =>
    cases depth with
    | zero =>
      rw [tree, skipSpace_cons rfl] at hread
      cases hread
    | succ depth =>
      rw [tree_bracket (skipSpace_cons rfl cs) hne, treeItems_skipSpace] at hread
      exact ⟨fuel, depth, hread⟩

theorem exists_treeMembers_eq (hne : ∀ more, skipSpace cs ≠ '\x7d' :: more)
    (hread : tree fuel depth ('\x7b' :: cs) = .ok (value, rest)) :
    ∃ steps deep, treeMembers steps deep [] cs = .ok (value, rest) := by
  cases fuel with
  | zero => cases hread
  | succ fuel =>
    cases depth with
    | zero =>
      rw [tree, skipSpace_cons rfl] at hread
      cases hread
    | succ depth =>
      rw [tree_brace (skipSpace_cons rfl cs) hne, treeMembers_skipSpace] at hread
      exact ⟨fuel, depth, hread⟩

theorem skipSpace_items_ne {parts : List (List Char)} (h : IsTextOf cs doc)
    (tail more : List Char) : skipSpace (separated (cs :: parts) ++ tail) ≠ ']' :: more := by
  obtain ⟨c, front, hclose, hskip⟩ := h.exists_front
  rw [separated_cons, List.append_assoc, hskip]
  exact fun heq => hclose (List.cons.inj heq).1

theorem skipSpace_members_ne {m : MemberText} {parts : List (List Char)}
    (h : IsKeyText m.keyChars m.name) (tail more : List Char) :
    skipSpace (separated (m.chars :: parts) ++ tail) ≠ '\x7d' :: more := by
  obtain ⟨before, cs, after, hbefore, -, -, hkey⟩ := h
  rw [separated_cons, MemberText.chars, hkey]
  simp only [List.append_assoc, List.cons_append, skipSpace_append hbefore]
  rw [skipSpace_cons rfl]
  intro heq
  cases heq

theorem IsTextOf.readsAs (h : IsTextOf cs doc) : ReadsAs cs doc := by
  -- The induction is on the text and not on the document: blanks belong to the text only.
  induction h with
  | null =>
    refine readsAs_of_scalar (fun _ => ⟨'n', _, rfl, by decide⟩) fun _ hscalar => ?_
    obtain ⟨rfl, rfl⟩ := Prod.mk.inj (Except.ok.inj hscalar)
    exact ⟨rfl, fun _ => rfl, rfl⟩
  | yes =>
    refine readsAs_of_scalar (fun _ => ⟨'t', _, rfl, by decide⟩) fun _ hscalar => ?_
    obtain ⟨rfl, rfl⟩ := Prod.mk.inj (Except.ok.inj hscalar)
    exact ⟨rfl, fun _ => rfl, trivial⟩
  | no =>
    refine readsAs_of_scalar (fun _ => ⟨'f', _, rfl, by decide⟩) fun _ hscalar => ?_
    obtain ⟨rfl, rfl⟩ := Prod.mk.inj (Except.ok.inj hscalar)
    exact ⟨rfl, fun _ => rfl, trivial⟩
  | integer negative k =>
    refine readsAs_of_scalar (fun tail => ?_) fun {tail rest value} hends hscalar => ?_
    · rw [List.append_assoc]
      exact startsScalar_signChars negative k tail
    · rw [List.append_assoc] at hscalar
      obtain ⟨hrest, n, rfl⟩ := scalar_leaves .none .none hends hscalar
      refine ⟨hrest, fun _ => ?_, trivial⟩
      rw [wireValue_literal hends hscalar, Document.wire]
  | decimal negative k hfraction hexponent =>
    refine readsAs_of_scalar (fun tail => ?_) fun {tail rest value} hends hscalar => ?_
    · rw [List.append_assoc, List.append_assoc]
      exact startsScalar_signChars negative k _
    · simp only [List.append_assoc] at hscalar
      obtain ⟨hrest, n, rfl⟩ := scalar_leaves hfraction hexponent hends hscalar
      exact ⟨hrest, fun hintegral => absurd hintegral not_isIntegral_decimal, trivial⟩
  | text hescaped =>
    refine readsAs_of_scalar (fun _ => ⟨'"', _, rfl, by decide⟩)
      fun {tail rest value} _ hscalar => ?_
    rw [List.cons_append, List.append_assoc, List.singleton_append, scalar,
      textBody_isEscaped hescaped] at hscalar
    obtain ⟨rfl, rfl⟩ := Prod.mk.inj (Except.ok.inj hscalar)
    exact ⟨rfl, fun _ => rfl, rfl⟩
  | noItems hblanks =>
    intro fuel depth tail rest value _ hread
    rw [List.cons_append, List.append_assoc] at hread
    obtain ⟨rfl, rfl⟩ := tree_noItems hblanks hread
    exact ⟨rfl, fun _ => rfl, trivial⟩
  | @array parts hne htexts ih =>
    intro fuel depth tail rest value _ hread
    obtain ⟨first, others, rfl⟩ := List.exists_cons_of_ne_nil hne
    rw [List.cons_append, List.append_assoc] at hread
    obtain ⟨steps, deep, hread⟩ :=
      exists_treeItems_eq (skipSpace_items_ne (htexts first List.mem_cons_self) _) hread
    obtain ⟨rfl, items, rfl, hitems⟩ := treeItems_separated ih hread
    refine ⟨rfl, fun hintegral => ?_, trivial⟩
    rw [isIntegral_array_iff, List.forall_mem_map] at hintegral
    rw [Params.wireValue_array, List.reverse_nil, List.nil_append, hitems hintegral,
      Document.wire_array, List.map_map]
    rfl
  | noMembers hblanks =>
    intro fuel depth tail rest value _ hread
    rw [List.cons_append, List.append_assoc] at hread
    obtain ⟨rfl, rfl⟩ := tree_noMembers hblanks hread
    exact ⟨rfl, fun _ => rfl, trivial⟩
  | @object parts hne hkeys _ ih =>
    intro fuel depth tail rest value _ hread
    obtain ⟨first, others, rfl⟩ := List.exists_cons_of_ne_nil hne
    rw [List.cons_append, List.append_assoc] at hread
    obtain ⟨steps, deep, hread⟩ :=
      exists_treeMembers_eq (skipSpace_members_ne (hkeys first List.mem_cons_self) _) hread
    obtain ⟨rfl, members, rfl, hmembers⟩ := treeMembers_separated hkeys ih hread
    refine ⟨rfl, fun hintegral => ?_, trivial⟩
    rw [isIntegral_object_iff, List.forall_mem_map] at hintegral
    rw [Params.wireValue_object, List.reverse_nil, List.nil_append, hmembers hintegral,
      Document.wire_object, List.map_map]
    rfl
  | @blanks before cs after doc hbefore hafter _ ih =>
    intro fuel depth tail rest value hends hread
    rw [List.append_assoc, tree_blanks hbefore, List.append_assoc] at hread
    obtain ⟨hrest, hvalue⟩ := ih (hafter.endsNumber_append hends) hread
    rw [skipSpace_append hafter] at hrest
    exact ⟨hrest, hvalue⟩

end ScoreDeploy.Json
