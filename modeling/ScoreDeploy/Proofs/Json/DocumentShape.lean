import ScoreDeploy.Json.Shape
import ScoreDeploy.Proofs.Json.DocumentSkip

/-!
# Reading documents of a given form

A record is read from the members of an object, or from the items of an array in the order of its
labels. Either way what is found under a label comes from the part of the document that has this
name or this place.
-/

namespace ScoreDeploy.Json

variable {cs rest tail before : List Char} {doc : Document} {value : Json} {fuel depth : Nat}
variable {shape : Shape} {fields : List (Label × Shape)} {found : Members}
variable {p : Json → Prop} {form : String → Json → Prop}

/-- The value has a certain form, a contract receives for it what it should receive for the
document, and null or a text is what the document says. -/
def Document.Gives (p : Json → Prop) (doc : Document) (value : Json) : Prop :=
  p value ∧ (doc.IsIntegral → Params.wireValue value = doc.wire.canonical) ∧ doc.Underlies value

/-! ### Plain forms -/

namespace Shape

theorem readValue_skipSpace (shape : Shape) (fuel depth : Nat) (cs : List Char) :
    shape.readValue fuel depth (skipSpace cs) = shape.readValue fuel depth cs := by
  cases fuel with
  | zero => rfl
  | succ fuel => rw [readValue.eq_def, readValue.eq_def]; simp only [skipSpace_skipSpace]

theorem otherType_ne_ok {α : Type} (cs : List Char) (a : α) : otherType cs ≠ .ok a := by
  intro h
  unfold otherType at h
  split at h
  · cases h
  · cases h
  · split at h <;> cases h

theorem exists_object_of_treeMembers {done : Members}
    (h : treeMembers fuel depth done cs = .ok (value, rest)) :
    ∃ members, value = .object members := by
  induction fuel generalizing done cs with
  | zero => cases h
  | succ fuel ih =>
    rw [treeMembers] at h
    split at h
    · cases h
    · split at h
      · cases h
      · split at h
        · exact ih h
        · exact ⟨_, (Prod.mk.inj (Except.ok.inj h)).1.symm⟩
        · cases h
        · cases h

theorem exists_object_of_tree {more : List Char} (hcs : skipSpace cs = '\x7b' :: more)
    (h : tree fuel depth cs = .ok (value, rest)) : ∃ members, value = .object members := by
  cases fuel with
  | zero => cases h
  | succ fuel =>
    cases depth with
    | zero =>
      rw [tree, hcs] at h
      cases h
    | succ depth =>
      by_cases hclose : ∃ behind, skipSpace more = '\x7d' :: behind
      · obtain ⟨behind, hclose⟩ := hclose
        simp only [tree, hcs, hclose] at h
        exact ⟨_, (Prod.mk.inj (Except.ok.inj h)).1.symm⟩
      · rw [tree_brace hcs (not_exists.mp hclose)] at h
        exact exists_object_of_treeMembers h

/-- Values of that form are read as any value is, and are brought into order. -/
def IsPlain (p : Json → Prop) (shape : Shape) : Prop :=
  ∀ {fuel depth : Nat} {cs rest : List Char} {value : Json},
    shape.readValue fuel depth cs = .ok (value, rest) → p value ∧
      ∃ steps deep v, tree steps deep cs = .ok (v, rest) ∧ value = v.canonical

theorem IsPlain.imp {q : Json → Prop} (h : shape.IsPlain p) (hpq : ∀ value, p value → q value) :
    shape.IsPlain q :=
  fun hread => (h hread).imp_left (hpq _)

theorem isPlain_text : IsPlain (fun value => ∃ s, value = .string s) .text := by
  intro fuel depth cs rest value h
  cases fuel with
  | zero => cases h
  | succ fuel =>
    rw [readValue, readText.eq_def] at h
    split at h
    · next more hcs =>
      cases hbody : textBody more with
      | error f =>
        rw [hbody] at h
        cases h
      | ok result =>
        rw [hbody] at h
        obtain ⟨rfl, rfl⟩ := Prod.mk.inj (Except.ok.inj h)
        refine ⟨⟨result.1, rfl⟩, 1, 0, .string result.1, ?_, rfl⟩
        rw [tree, hcs]
        change scalar _ = _
        rw [scalar, hbody]
        rfl
    · exact absurd h (otherType_ne_ok _ _)

theorem isPlain_members : IsPlain (fun value => ∃ members, value = .object members) .members := by
  intro fuel depth cs rest value h
  cases fuel with
  | zero => cases h
  | succ fuel =>
    rw [readValue] at h
    split at h
    · next hcs =>
      cases htree : tree (enoughSteps (skipSpace cs)) depth (skipSpace cs) with
      | error f =>
        rw [htree] at h
        cases h
      | ok result =>
        obtain ⟨v, left⟩ := result
        rw [htree] at h
        obtain ⟨rfl, rfl⟩ := Prod.mk.inj (Except.ok.inj h)
        rw [tree_skipSpace] at htree
        obtain ⟨members, rfl⟩ := exists_object_of_tree hcs htree
        exact ⟨⟨_, rfl⟩, _, _, _, htree, rfl⟩
    · exact absurd h (otherType_ne_ok _ _)

theorem IsPlain.optional (hplain : shape.IsPlain p) :
    IsPlain (fun value => value = .null ∨ p value) (.optional shape) := by
  intro fuel depth cs rest value h
  cases fuel with
  | zero => cases h
  | succ fuel =>
    rw [readValue] at h
    split at h
    · next more hcs =>
      rw [hcs] at h
      have hscalar := h
      obtain ⟨_, -, hnull⟩ := Except.bind_eq_ok_iff.mp h
      obtain ⟨rfl, -⟩ := Prod.mk.inj (Except.ok.inj hnull)
      refine ⟨.inl rfl, 1, 0, .null, ?_, rfl⟩
      rw [tree, hcs]
      exact hscalar
    · obtain ⟨hvalue, steps, deep, v, htree, hcanonical⟩ := hplain h
      rw [tree_skipSpace] at htree
      exact ⟨.inr hvalue, steps, deep, v, htree, hcanonical⟩

theorem IsPlain.gives (hplain : shape.IsPlain p) (h : IsTextOf cs doc) (hends : EndsNumber tail)
    (hread : shape.readValue fuel depth (cs ++ tail) = .ok (value, rest)) :
    skipSpace rest = skipSpace tail ∧ doc.Gives p value := by
  obtain ⟨hvalue, steps, deep, v, htree, rfl⟩ := hplain hread
  obtain ⟨hrest, hwire, hunderlies⟩ := h.readsAs hends htree
  refine ⟨hrest, hvalue, fun hintegral => ?_, hunderlies.canonical⟩
  rw [Params.wireValue_canonical, hwire hintegral]

end Shape

/-! ### Labels -/

/-- The parts of a document, each under a name: the members of an object, or the items of an array,
which take the names in order. -/
def Document.labelled (names : List String) : Document → List (String × Document)
  | .object members => members
  | .array items => names.zip items
  | _ => []

/-- Under each of the names stands a value for the part with that name, if there is one. -/
def AreFound (form : String → Json → Prop) (names : List String) (parts : List (String × Document))
    (found : Members) : Prop :=
  ∀ name ∈ names,
    Option.Rel (Document.Gives (form name)) (parts.lookup name) (Members.get? found name)

/-- What is kept of a member: nothing, or a value under its name. -/
inductive IsKept (form : String → Json → Prop) (names : List String) (m : String × Document) :
    Members → Prop
  | known {value : Json} : m.2.Gives (form m.1) value → IsKept form names m [(m.1, value)]
  | unknown : m.1 ∉ names → IsKept form names m []

section

variable {names : List String} {m : String × Document} {parts : List (String × Document)}

theorem IsKept.reverse (h : IsKept form names m found) : IsKept form names m found.reverse := by
  cases h with
  | known hvalue => exact .known hvalue
  | unknown hnot => exact .unknown hnot

theorem areFound_nil (names : List String) : AreFound form names [] [] :=
  fun _ _ => .none

theorem AreFound.cons {kept : Members} (hm : IsKept form names m kept)
    (h : AreFound form names parts found) : AreFound form names (m :: parts) (kept ++ found) := by
  intro name hname
  have hrest := h name hname
  by_cases heq : name = m.1
  · cases hm with
    | known hvalue =>
      rw [List.lookup_cons, beq_iff_eq.mpr heq, List.singleton_append, Members.get?_cons,
        if_pos heq, heq]
      exact .some hvalue
    | unknown hnot => exact absurd (heq ▸ hname) hnot
  · rw [List.lookup_cons, beq_eq_false_iff_ne.mpr heq]
    cases hm with
    | known hvalue =>
      rw [List.singleton_append, Members.get?_cons, if_neg heq]
      exact hrest
    | unknown hnot => exact hrest

end

namespace Shape

/-- The names of the labels. -/
def names (fields : List (Label × Shape)) : List String :=
  fields.map fun f => f.1.name

/-- All members of the record are plain and go by one name only. -/
def ArePlain (form : String → Json → Prop) (fields : List (Label × Shape)) : Prop :=
  ∀ f ∈ fields, f.1.aliases = [] ∧ f.2.IsPlain (form f.1.name)

theorem accepts_iff {label : Label} (h : label.aliases = []) (key : String) :
    label.accepts key = true ↔ key = label.name := by
  rw [Label.accepts, h]
  simp

theorem not_mem_names_of_find? {key : String} (hfields : ArePlain form fields)
    (h : (fields.find? fun f => f.1.accepts key) = none) : key ∉ names fields := by
  intro hmem
  obtain ⟨f, hf, rfl⟩ := List.mem_map.mp hmem
  exact List.find?_eq_none.mp h f hf ((accepts_iff (hfields f hf).1 _).mpr rfl)

/-! ### The forms of members -/

theorem forms_of_readMembers (hfields : ArePlain form fields) (hfound : ∀ m ∈ found, form m.1 m.2)
    (hread : readMembers fuel depth fields false found cs = .ok (value, rest)) :
    ∃ members, value = .object members ∧ ∀ m ∈ members, form m.1 m.2 := by
  induction fuel generalizing found cs with
  | zero => cases hread
  | succ fuel ih =>
    rw [readMembers] at hread
    split at hread
    · cases hread
    · simp only [Bool.false_eq_true, if_false] at hread
      split at hread
      · cases hread
      · next kept left hmember =>
        -- A member that is passed over changes nothing, and one that is kept has its form.
        have hkept : ∀ m ∈ kept, form m.1 m.2 := by
          split at hmember
          · next hfind =>
            obtain ⟨-, hplain⟩ := hfields _ (List.mem_of_find?_eq_some hfind)
            split_ifs at hmember
            split at hmember
            · cases hmember
            · split at hmember
              · cases hmember
              · next hvalue =>
                obtain ⟨rfl, -⟩ := Prod.mk.inj (Except.ok.inj hmember)
                exact List.forall_mem_cons.mpr ⟨(hplain hvalue).1, hfound⟩
          · split at hmember
            · cases hmember
            · split at hmember
              · cases hmember
              · obtain ⟨rfl, -⟩ := Prod.mk.inj (Except.ok.inj hmember)
                exact hfound
        split at hread
        · exact ih hkept hread
        · split at hread
          · cases hread
          · obtain ⟨rfl, -⟩ := Prod.mk.inj (Except.ok.inj hread)
            exact ⟨_, rfl, fun m hm => hkept m (List.mem_reverse.mp hm)⟩
        · cases hread
        · cases hread

theorem forms_of_readItems {first : Bool} (hfields : ArePlain form fields)
    (hfound : ∀ m ∈ found, form m.1 m.2)
    (hread : readItems fuel depth fields first found cs = .ok (value, rest)) :
    ∃ members, value = .object members ∧ ∀ m ∈ members, form m.1 m.2 := by
  induction fuel generalizing fields first found cs with
  | zero => cases hread
  | succ fuel ih =>
    cases fields with
    | nil =>
      rw [readItems] at hread
      split at hread
      · cases hread
      · obtain ⟨rfl, -⟩ := Prod.mk.inj (Except.ok.inj hread)
        exact ⟨_, rfl, fun m hm => hfound m (List.mem_reverse.mp hm)⟩
    | cons field fields =>
      obtain ⟨⟨-, hplain⟩, hfields⟩ := List.forall_mem_cons.mp hfields
      rw [readItems] at hread
      split at hread
      · cases hread
      · split at hread
        · cases hread
        · exact ih hfields hfound hread
      · split at hread
        · cases hread
        · next hvalue =>
          exact ih hfields (List.forall_mem_cons.mpr ⟨(hplain hvalue).1, hfound⟩) hread

/-- Whatever is read as a record, the members that are kept have the forms that go with their
names. -/
theorem forms_of_readAs {text : String} (hfields : ArePlain form fields)
    (h : readAs (.record fields) text = .ok value) :
    ∃ members, value = .object members ∧ ∀ m ∈ members, form m.1 m.2 := by
  obtain ⟨rest, hread, -⟩ := exists_of_finish h
  rw [readValue.eq_def] at hread
  simp only at hread
  split at hread
  · cases hread
  · cases hread
  · split at hread
    · split at hread
      · cases hread
      · obtain ⟨rfl, -⟩ := Prod.mk.inj (Except.ok.inj hread)
        exact ⟨[], rfl, List.forall_mem_nil _⟩
    · exact forms_of_readMembers hfields (List.forall_mem_nil _) hread
  · exact forms_of_readItems hfields (List.forall_mem_nil _) hread
  · exact absurd hread (otherType_ne_ok _ _)

/-! ### Records in objects -/

/-- The next member is kept or passed over, and what follows it decides. -/
theorem readMembers_member {m : MemberText} {c : Char} {more : List Char}
    (hfields : ArePlain form fields) (hkey : IsKeyText m.keyChars m.name)
    (h : IsTextOf m.valueChars m.value) (hc : isSpace c = false) (hends : EndsNumber (c :: more))
    (hread : readMembers fuel depth fields false found (m.chars ++ c :: more) = .ok (value, rest)) :
    ∃ steps kept, IsKept form (names fields) m.member kept ∧
      (match c :: more with
        | ',' :: rest => readMembers steps depth fields false (kept ++ found) rest
        | '\x7d' :: rest =>
          match checkComplete fields (kept ++ found) with
          | .error f => .error f
          | .ok () => .ok (.object (kept ++ found).reverse, rest)
        | [] => .error .unexpectedEnd
        | _ => .error .noComma) = .ok (value, rest) := by
  cases fuel with
  | zero => cases hread
  | succ fuel =>
    obtain ⟨behind, hname, hcolon⟩ := exists_key_eq hkey (m.valueChars ++ c :: more)
    rw [MemberText.chars, List.append_assoc, List.cons_append, readMembers, hname] at hread
    dsimp only at hread
    cases hfind : fields.find? fun f => f.1.accepts m.name with
    -- A member that the record does not know is passed over, and must end where it was to end.
    | none =>
      rw [hfind] at hread
      simp only [hcolon, Bool.false_eq_true, if_false] at hread
      cases hskip : skip (m.valueChars ++ c :: more) with
      | error f =>
        rw [hskip] at hread
        cases hread
      | ok left =>
        rw [hskip] at hread
        dsimp only at hread
        rw [h.skip_leaves hends hskip, skipSpace_cons hc] at hread
        exact ⟨fuel, [], .unknown (not_mem_names_of_find? hfields hfind), hread⟩
    | some field =>
      obtain ⟨label, shape⟩ := field
      obtain ⟨haliases, hplain⟩ := hfields _ (List.mem_of_find?_eq_some hfind)
      have haccepts := List.find?_some hfind
      have hlabel : m.name = label.name := (accepts_iff haliases _).mp haccepts
      rw [hfind] at hread
      simp only [hcolon] at hread
      -- The first member of a name is the only one, since a second one is refused.
      by_cases hrepeated : (Members.get? found label.name).isSome = true
      · rw [if_pos hrepeated] at hread
        cases hread
      rw [if_neg hrepeated] at hread
      cases hitem : shape.readValue fuel depth (m.valueChars ++ c :: more) with
      | error f =>
        rw [hitem] at hread
        cases hread
      | ok result =>
        obtain ⟨item, left⟩ := result
        obtain ⟨hleft, hgives⟩ := IsPlain.gives hplain h hends hitem
        rw [hitem] at hread
        dsimp only at hread
        rw [hleft, skipSpace_cons hc, ← hlabel] at hread
        have hitem : m.member.2.Gives (form m.member.1) item := by
          change m.value.Gives (form m.name) item
          rw [hlabel]
          exact hgives
        exact ⟨fuel, [(m.name, item)], .known hitem, hread⟩

/-- The members of a record are read one after another. -/
theorem readMembers_separated {first : MemberText} {others : List MemberText}
    (hfields : ArePlain form fields) (hkeys : ∀ m ∈ first :: others, IsKeyText m.keyChars m.name)
    (h : ∀ m ∈ first :: others, IsTextOf m.valueChars m.value)
    (hread : readMembers fuel depth fields false found
      (separated ((first :: others).map MemberText.chars) ++ '\x7d' :: tail) = .ok (value, rest)) :
    rest = tail ∧ ∃ more, value = .object (found.reverse ++ more) ∧
      AreFound form (names fields) ((first :: others).map MemberText.member) more := by
  induction others generalizing first found fuel with
  | nil =>
    have htext : separated ([first].map MemberText.chars) = first.chars := by simp [separated]
    rw [htext] at hread
    obtain ⟨_, kept, hkept, hclose⟩ := readMembers_member hfields (hkeys first List.mem_cons_self)
      (h first List.mem_cons_self) (by decide) (endsNumber_cons (by decide) _) hread
    cases hcomplete : checkComplete fields (kept ++ found) with
    | error f =>
      rw [hcomplete] at hclose
      cases hclose
    | ok =>
      rw [hcomplete] at hclose
      obtain ⟨rfl, rfl⟩ := Prod.mk.inj (Except.ok.inj hclose)
      refine ⟨rfl, kept.reverse ++ [], ?_, AreFound.cons hkept.reverse (areFound_nil _)⟩
      rw [List.reverse_append, List.append_nil]
  | cons second others ih =>
    obtain ⟨hkey, hkeys⟩ := List.forall_mem_cons.mp hkeys
    obtain ⟨hfirst, hothers⟩ := List.forall_mem_cons.mp h
    rw [List.map_cons, List.map_cons, separated_cons_cons, List.append_assoc,
      List.cons_append] at hread
    obtain ⟨steps, kept, hkept, hnext⟩ := readMembers_member hfields hkey hfirst (by decide)
      (endsNumber_cons (by decide) _) hread
    obtain ⟨hrest, more, hvalue, hmore⟩ := ih hkeys hothers hnext
    refine ⟨hrest, kept.reverse ++ more, ?_, AreFound.cons hkept.reverse hmore⟩
    rw [hvalue, List.reverse_append, List.append_assoc]

/-! ### Records in arrays -/

theorem endsNumber_items (parts : List (List Char × Document)) (tail : List Char) :
    EndsNumber ((parts.map Prod.fst).flatMap (fun part => ',' :: part) ++ ']' :: tail) := by
  cases parts with
  | nil => exact endsNumber_cons (by decide) _
  | cons _ _ => exact endsNumber_cons (by decide) _

/-- Where the array ends, so does the record. -/
theorem readItems_closing {first : Bool} (hleft : skipSpace cs = ']' :: tail)
    (hread : readItems fuel depth fields first found cs = .ok (value, rest)) :
    rest = tail ∧ value = .object found.reverse := by
  induction fields generalizing fuel with
  | nil =>
    cases fuel with
    | zero => cases hread
    | succ fuel =>
      rw [readItems, closeArray, hleft] at hread
      obtain ⟨rfl, rfl⟩ := Prod.mk.inj (Except.ok.inj hread)
      exact ⟨rfl, rfl⟩
  | cons field fields ih =>
    cases fuel with
    | zero => cases hread
    | succ fuel =>
      simp only [readItems, nextItem, hleft] at hread
      split_ifs at hread
      exact ih hread

/-- The next item is read for the next label. -/
theorem readItems_item {label : Label} {first : Bool} {next : List Char}
    (hplain : shape.IsPlain p) (hnext : nextItem first cs = .ok (some next))
    (hskip : skipSpace next = skipSpace (before ++ tail)) (h : IsTextOf before doc)
    (hends : EndsNumber tail)
    (hread : readItems fuel depth ((label, shape) :: fields) first found cs = .ok (value, rest)) :
    ∃ steps item left, doc.Gives p item ∧ skipSpace left = skipSpace tail ∧
      readItems steps depth fields false ((label.name, item) :: found) left =
        .ok (value, rest) := by
  cases fuel with
  | zero => cases hread
  | succ fuel =>
    rw [readItems, hnext] at hread
    dsimp only at hread
    rw [← readValue_skipSpace, hskip, readValue_skipSpace] at hread
    cases hitem : shape.readValue fuel depth (before ++ tail) with
    | error f =>
      rw [hitem] at hread
      cases hread
    | ok result =>
      obtain ⟨item, left⟩ := result
      obtain ⟨hleft, hgives⟩ := IsPlain.gives hplain h hends hitem
      rw [hitem] at hread
      exact ⟨fuel, item, left, hgives, hleft, hread⟩

/-- The items that follow the first one are read for the labels that are left. -/
theorem readItems_following {parts : List (List Char × Document)} (hfields : ArePlain form fields)
    (h : ∀ p ∈ parts, IsTextOf p.1 p.2)
    (hleft : skipSpace cs =
      skipSpace ((parts.map Prod.fst).flatMap (fun part => ',' :: part) ++ ']' :: tail))
    (hread : readItems fuel depth fields false found cs = .ok (value, rest)) :
    rest = tail ∧ ∃ more, value = .object (found.reverse ++ more) ∧ ∀ known,
      AreFound form known ((names fields).zip (parts.map Prod.snd)) more := by
  induction parts generalizing fields found cs fuel with
  | nil =>
    obtain ⟨hrest, hvalue⟩ := readItems_closing (hleft.trans (skipSpace_cons rfl _)) hread
    refine ⟨hrest, [], ?_, fun known => ?_⟩
    · rw [hvalue, List.append_nil]
    · rw [List.map_nil, List.zip_nil_right]
      exact areFound_nil known
  | cons p parts ih =>
    obtain ⟨hp, hparts⟩ := List.forall_mem_cons.mp h
    rw [List.map_cons, List.flatMap_cons, List.cons_append, List.cons_append, List.append_assoc,
      skipSpace_cons rfl] at hleft
    cases fields with
    | nil =>
      -- More items than labels are refused.
      cases fuel with
      | zero => cases hread
      | succ fuel =>
        rw [readItems, closeArray, hleft] at hread
        cases hread
    | cons field fields =>
      obtain ⟨⟨-, hplain⟩, hfields⟩ := List.forall_mem_cons.mp hfields
      obtain ⟨c, more, hclose, hfront⟩ := hp.exists_front
      have hnext : nextItem false cs = .ok (some (skipSpace (p.1 ++
          ((parts.map Prod.fst).flatMap (fun part => ',' :: part) ++ ']' :: tail)))) := by
        simp only [nextItem, hleft, hfront, Bool.false_eq_true, if_false]
        split
        · next heq => cases heq
        · next heq => exact absurd (List.cons.inj heq).1 hclose
        · rfl
      obtain ⟨steps, item, left, hitem, hleft, hread⟩ :=
        readItems_item hplain hnext (skipSpace_skipSpace _) hp (endsNumber_items parts tail) hread
      obtain ⟨hrest, more, hvalue, hmore⟩ := ih hfields hparts hleft hread
      refine ⟨hrest, [(field.1.name, item)] ++ more, ?_, fun known => ?_⟩
      · rw [hvalue, List.reverse_cons, List.append_assoc]
      · have hkept : IsKept form known (field.1.name, p.2) [(field.1.name, item)] := .known hitem
        exact AreFound.cons hkept (hmore known)

theorem readItems_separated {first : List Char × Document} {others : List (List Char × Document)}
    (hfields : ArePlain form fields) (h : ∀ p ∈ first :: others, IsTextOf p.1 p.2)
    (hread : readItems fuel depth fields true []
      (separated ((first :: others).map Prod.fst) ++ ']' :: tail) = .ok (value, rest)) :
    rest = tail ∧ ∃ found, value = .object found ∧ ∀ known,
      AreFound form known ((names fields).zip ((first :: others).map Prod.snd)) found := by
  obtain ⟨hfirst, hothers⟩ := List.forall_mem_cons.mp h
  obtain ⟨c, more, hclose, hfront⟩ := hfirst.exists_front
  rw [List.map_cons, separated_cons, List.append_assoc] at hread
  cases fields with
  | nil =>
    cases fuel with
    | zero => cases hread
    | succ fuel =>
      rw [readItems, closeArray, hfront] at hread
      split at hread
      · cases hread
      · next hmatch =>
        split at hmatch
        · next heq => cases heq
        · next heq => exact absurd (List.cons.inj heq).1 hclose
        · cases hmatch
  | cons field fields =>
    obtain ⟨⟨-, hplain⟩, hfields⟩ := List.forall_mem_cons.mp hfields
    have hnext : nextItem true (first.1 ++
        ((others.map Prod.fst).flatMap (fun part => ',' :: part) ++ ']' :: tail)) =
          .ok (some (skipSpace (first.1 ++
            ((others.map Prod.fst).flatMap (fun part => ',' :: part) ++ ']' :: tail)))) := by
      simp only [nextItem, hfront, if_true]
      split
      · next heq => cases heq
      · next heq => exact absurd (List.cons.inj heq).1 hclose
      · next heq => rw [heq]
      · rfl
    obtain ⟨steps, item, left, hitem, hleft, hread⟩ := readItems_item hplain hnext
      (skipSpace_skipSpace _) hfirst (endsNumber_items others tail) hread
    obtain ⟨hrest, more, hvalue, hmore⟩ := readItems_following hfields hothers hleft hread
    refine ⟨hrest, (field.1.name, item) :: more, hvalue, fun known => ?_⟩
    have hkept : IsKept form known (field.1.name, first.2) [(field.1.name, item)] := .known hitem
    exact AreFound.cons hkept (hmore known)

/-! ### Records -/

/-- Whatever a record makes of these characters, it takes them all, and keeps under each of its
names a value for the part of the document that has this name or comes at its place. -/
def RecordsAs (form : String → Json → Prop) (fields : List (Label × Shape)) (cs : List Char)
    (doc : Document) : Prop :=
  ∀ {fuel depth : Nat} {tail rest : List Char} {value : Json}, EndsNumber tail →
    (Shape.record fields).readValue fuel depth (cs ++ tail) = .ok (value, rest) →
      skipSpace rest = skipSpace tail ∧ ∃ found, value = .object found ∧
        AreFound form (names fields) (doc.labelled (names fields)) found

/-- A scalar is no record. -/
theorem recordsAs_of_scalar (hstarts : ∀ tail, StartsScalar (cs ++ tail)) :
    RecordsAs form fields cs doc := by
  intro fuel depth tail rest value _ hread
  exfalso
  obtain ⟨c, more, hcs, hspace, hbracket, hbrace, -⟩ := hstarts tail
  rw [hcs] at hread
  cases fuel with
  | zero => cases hread
  | succ fuel =>
    rw [readValue.eq_def] at hread
    simp only [skipSpace_cons hspace] at hread
    split at hread
    · next heq => exact hbrace (List.cons.inj heq).1
    · next heq => exact hbracket (List.cons.inj heq).1
    · next heq => exact hbrace (List.cons.inj heq).1
    · next heq => exact hbracket (List.cons.inj heq).1
    · exact otherType_ne_ok _ _ hread

theorem readValue_record_bracket
    (hread : (Shape.record fields).readValue fuel depth ('[' :: cs) = .ok (value, rest)) :
    ∃ steps deep, readItems steps deep fields true [] cs = .ok (value, rest) := by
  cases fuel with
  | zero => cases hread
  | succ fuel =>
    rw [readValue.eq_def] at hread
    simp only [skipSpace_cons (c := '[') rfl] at hread
    cases depth with
    | zero => cases hread
    | succ depth => exact ⟨fuel, depth, hread⟩

theorem readMembers_skipSpace (fuel depth : Nat) (keepOthers : Bool) (cs : List Char) :
    readMembers fuel depth fields keepOthers found (skipSpace cs) =
      readMembers fuel depth fields keepOthers found cs := by
  cases fuel with
  | zero => rfl
  | succ fuel => rw [readMembers, readMembers, key, key, skipSpace_skipSpace]

/-- Braces hold nothing, or members that are read. -/
theorem readValue_record_brace
    (hread : (Shape.record fields).readValue fuel depth ('\x7b' :: cs) = .ok (value, rest)) :
    (skipSpace cs = '\x7d' :: rest ∧ value = .object []) ∨
      ∃ steps deep, readMembers steps deep fields false [] cs = .ok (value, rest) := by
  cases fuel with
  | zero => cases hread
  | succ fuel =>
    rw [readValue.eq_def] at hread
    simp only [skipSpace_cons (c := '\x7b') rfl] at hread
    split at hread
    · cases hread
    · cases hread
    · next hbrace =>
      obtain rfl := (List.cons.inj hbrace).2
      split at hread
      · next hclose =>
        split at hread
        · cases hread
        · obtain ⟨rfl, rfl⟩ := Prod.mk.inj (Except.ok.inj hread)
          exact .inl ⟨hclose, rfl⟩
      · rw [readMembers_skipSpace] at hread
        exact .inr ⟨fuel, _, hread⟩
    · next hbrace => cases hbrace
    · exact absurd hread (otherType_ne_ok _ _)

theorem readMembers_brace_ne_ok (hclose : skipSpace cs = '\x7d' :: tail)
    (a : Json × List Char) : readMembers fuel depth fields false found cs ≠ .ok a := by
  intro hread
  cases fuel with
  | zero => cases hread
  | succ fuel =>
    rw [readMembers, key, hclose] at hread
    cases hread

end Shape

theorem IsTextOf.recordsAs (hfields : Shape.ArePlain form fields) (h : IsTextOf cs doc) :
    Shape.RecordsAs form fields cs doc := by
  induction h with
  | null => exact Shape.recordsAs_of_scalar fun _ => ⟨'n', _, rfl, by decide⟩
  | yes => exact Shape.recordsAs_of_scalar fun _ => ⟨'t', _, rfl, by decide⟩
  | no => exact Shape.recordsAs_of_scalar fun _ => ⟨'f', _, rfl, by decide⟩
  | integer negative k =>
    refine Shape.recordsAs_of_scalar fun tail => ?_
    rw [List.append_assoc]
    exact startsScalar_signChars negative k tail
  | decimal negative k =>
    refine Shape.recordsAs_of_scalar fun tail => ?_
    rw [List.append_assoc, List.append_assoc]
    exact startsScalar_signChars negative k _
  | text => exact Shape.recordsAs_of_scalar fun _ => ⟨'"', _, rfl, by decide⟩
  | noItems hblanks =>
    intro fuel depth tail rest value _ hread
    rw [List.cons_append, List.append_assoc] at hread
    obtain ⟨steps, deep, hread⟩ := Shape.readValue_record_bracket hread
    obtain ⟨rfl, rfl⟩ := Shape.readItems_closing
      ((skipSpace_append hblanks _).trans (skipSpace_cons rfl _)) hread
    refine ⟨rfl, [], rfl, ?_⟩
    rw [Document.labelled, List.zip_nil_right]
    exact areFound_nil _
  | @array parts hne htexts _ =>
    intro fuel depth tail rest value _ hread
    obtain ⟨first, others, rfl⟩ := List.exists_cons_of_ne_nil hne
    rw [List.cons_append, List.append_assoc] at hread
    obtain ⟨steps, deep, hread⟩ := Shape.readValue_record_bracket hread
    obtain ⟨rfl, found, rfl, hfound⟩ := Shape.readItems_separated hfields htexts hread
    exact ⟨rfl, found, rfl, hfound _⟩
  | noMembers hblanks =>
    intro fuel depth tail rest value _ hread
    rw [List.cons_append, List.append_assoc] at hread
    have hclose := (skipSpace_append hblanks ('\x7d' :: tail)).trans (skipSpace_cons rfl _)
    rcases Shape.readValue_record_brace hread with ⟨hskip, rfl⟩ | ⟨steps, deep, hread⟩
    · obtain rfl := (List.cons.inj (hskip.symm.trans hclose)).2
      exact ⟨rfl, [], rfl, areFound_nil _⟩
    · exact absurd hread (Shape.readMembers_brace_ne_ok hclose _)
  | @object parts hne hkeys htexts _ =>
    intro fuel depth tail rest value _ hread
    obtain ⟨first, others, rfl⟩ := List.exists_cons_of_ne_nil hne
    rw [List.cons_append, List.append_assoc] at hread
    rcases Shape.readValue_record_brace hread with ⟨hskip, -⟩ | ⟨steps, deep, hread⟩
    · exact absurd hskip (skipSpace_members_ne (hkeys first List.mem_cons_self) _ _)
    · obtain ⟨rfl, found, rfl, hfound⟩ := Shape.readMembers_separated hfields hkeys htexts hread
      exact ⟨rfl, found, rfl, hfound⟩
  | @blanks before cs after doc hbefore hafter _ ih =>
    intro fuel depth tail rest value hends hread
    rw [List.append_assoc, List.append_assoc, ← Shape.readValue_skipSpace, skipSpace_append hbefore,
      Shape.readValue_skipSpace] at hread
    obtain ⟨hrest, hfound⟩ := ih (hafter.endsNumber_append hends) hread
    rw [skipSpace_append hafter] at hrest
    exact ⟨hrest, hfound⟩

theorem exists_readValue_of_readAs {text : String} (h : readAs shape text = .ok value) :
    ∃ fuel rest, shape.readValue fuel maxDepth (text.toList ++ []) = .ok (value, rest) := by
  obtain ⟨rest, hread, -⟩ := exists_of_finish h
  rw [List.append_nil]
  exact ⟨_, rest, hread⟩

end ScoreDeploy.Json
