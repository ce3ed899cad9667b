import ScoreDeploy.Proofs.Transaction.Characters

/-!
# Canonical forms are told apart

The canonical form of a transaction keeps all that `flat` keeps. What a value becomes can be cut off
the text in front of a point, of a closing bracket or of the end, in one way only: its first
characters tell of which kind it is, escapes end a text, and a key ends at the first point.
-/

namespace ScoreDeploy.Canonical

open ScoreDeploy.Json

/-! ### Where a text ends -/

/-- The characters are none, or start with a point or with a closing bracket. -/
def Ends (cs : List Char) : Prop :=
  ∀ c ∈ cs.head?, c = '.' ∨ c = ']' ∨ c = '}'

/-- The characters are none, or start with a closing bracket. -/
def Closes (cs : List Char) : Prop :=
  ∀ c ∈ cs.head?, c = ']' ∨ c = '}'

theorem Closes.ends {cs : List Char} (h : Closes cs) : Ends cs :=
  fun c hc => .inr (h c hc)

theorem closes_nil : Closes [] := by
  simp [Closes]

theorem closes_bracket (cs : List Char) : Closes (']' :: cs) := by
  simp [Closes]

theorem not_closes_point (cs : List Char) : ¬Closes ('.' :: cs) := by
  simp [Closes]

theorem closes_brace (cs : List Char) : Closes ('}' :: cs) := by
  simp [Closes]

variable {r s : List Char}

theorem ends_pointed {α : Type} (part : α → List Char) (parts : List α) (hr : Closes r) :
    Ends (pointed part parts ++ r) := by
  cases parts with
  | nil => exact hr.ends
  | cons a rest => simp [Ends]

theorem not_ends_escape (c : Char) (cs : List Char) : ¬Ends (escape c ++ cs) := by
  intro h
  unfold escape at h
  split_ifs at h with hc
  · simp [Ends] at h
  · simp [Ends] at h
    rcases h with rfl | rfl | rfl <;> exact hc (by decide)

theorem eq_of_escape_append_eq {c d : Char} (h : escape c ++ r = escape d ++ s) :
    c = d ∧ r = s := by
  unfold escape at h
  split_ifs at h with hc hd hd
  · simpa using h
  · obtain ⟨rfl, -⟩ := List.cons_eq_cons.mp h
    exact absurd rfl hd
  · obtain ⟨rfl, -⟩ := List.cons_eq_cons.mp h
    exact absurd rfl hc
  · simpa using h

/-- Escapes tell a text from what follows it. -/
theorem eq_of_flatMap_escape_append_eq {cs ds : List Char} (hr : Ends r) (hs : Ends s)
    (h : cs.flatMap escape ++ r = ds.flatMap escape ++ s) : cs = ds ∧ r = s := by
  induction cs generalizing ds with
  | nil =>
    cases ds with
    | nil => exact ⟨rfl, h⟩
    | cons d ds =>
      rw [List.flatMap_nil, List.nil_append, List.flatMap_cons, List.append_assoc] at h
      exact absurd (h ▸ hr) (not_ends_escape d _)
  | cons c cs ih =>
    cases ds with
    | nil =>
      rw [List.flatMap_nil, List.nil_append, List.flatMap_cons, List.append_assoc] at h
      exact absurd (h ▸ hs) (not_ends_escape c _)
    | cons d ds =>
      rw [List.flatMap_cons, List.flatMap_cons, List.append_assoc, List.append_assoc] at h
      obtain ⟨rfl, htail⟩ := eq_of_escape_append_eq h
      obtain ⟨rfl, hrest⟩ := ih htail
      exact ⟨rfl, hrest⟩

/-- A plain key ends at the first point. -/
theorem eq_of_key_append_eq {cs ds : List Char} (hcs : '.' ∉ cs) (hds : '.' ∉ ds)
    (h : cs ++ '.' :: r = ds ++ '.' :: s) : cs = ds ∧ r = s := by
  induction cs generalizing ds with
  | nil =>
    cases ds with
    | nil => simpa using h
    | cons d ds =>
      obtain ⟨rfl, -⟩ := List.cons_eq_cons.mp h
      exact absurd List.mem_cons_self hds
  | cons c cs ih =>
    cases ds with
    | nil =>
      obtain ⟨rfl, -⟩ := List.cons_eq_cons.mp h
      exact absurd List.mem_cons_self hcs
    | cons d ds =>
      obtain ⟨rfl, htail⟩ := List.cons_eq_cons.mp h
      obtain ⟨rfl, hrest⟩ :=
        ih (mt (List.mem_cons_of_mem c) hcs) (mt (List.mem_cons_of_mem c) hds) htail
      exact ⟨rfl, hrest⟩

/-- If every part can be cut off, the points in front tell how many parts there are. -/
theorem eq_of_pointed_append_eq {α : Type} {part : α → List Char} {xs ys : List α}
    (hpart : ∀ x ∈ xs, ∀ y ∈ ys, ∀ r s, Ends r → Ends s → part x ++ r = part y ++ s →
      x = y ∧ r = s)
    (hr : Closes r) (hs : Closes s) (h : pointed part xs ++ r = pointed part ys ++ s) :
    xs = ys ∧ r = s := by
  induction xs generalizing ys with
  | nil =>
    cases ys with
    | nil => exact ⟨rfl, h⟩
    | cons y ys =>
      rw [pointed_nil, List.nil_append, pointed_cons, List.cons_append] at h
      exact absurd (h ▸ hr) (not_closes_point _)
  | cons x xs ih =>
    cases ys with
    | nil =>
      rw [pointed_nil, List.nil_append, pointed_cons, List.cons_append] at h
      exact absurd (h ▸ hs) (not_closes_point _)
    | cons y ys =>
      rw [pointed_cons, pointed_cons, List.cons_append, List.cons_append, List.append_assoc,
        List.append_assoc] at h
      obtain ⟨rfl, htail⟩ := hpart x List.mem_cons_self y List.mem_cons_self _ _
        (ends_pointed part xs hr) (ends_pointed part ys hs) (List.cons_eq_cons.mp h).2
      obtain ⟨rfl, hrest⟩ := ih (fun x' hx y' hy => hpart x' (List.mem_cons_of_mem x hx) y'
        (List.mem_cons_of_mem x hy)) htail
      exact ⟨rfl, hrest⟩

theorem eq_of_joined_append_eq {α : Type} {part : α → List Char} {xs ys : List α}
    (hpart : ∀ x ∈ xs, ∀ y ∈ ys, ∀ r s, Ends r → Ends s → part x ++ r = part y ++ s →
      x = y ∧ r = s)
    (hr : Closes r) (hs : Closes s) (hxs : xs ≠ [] → s ≠ joined part xs ++ r)
    (hys : ys ≠ [] → r ≠ joined part ys ++ s) (h : joined part xs ++ r = joined part ys ++ s) :
    xs = ys ∧ r = s := by
  cases xs with
  | nil =>
    cases ys with
    | nil => exact ⟨rfl, h⟩
    | cons y ys => exact absurd h (hys (List.cons_ne_nil y ys))
  | cons x xs =>
    cases ys with
    | nil => exact absurd h.symm (hxs (List.cons_ne_nil x xs))
    | cons y ys => exact eq_of_pointed_append_eq hpart hr hs (congrArg (List.cons '.') h)

/-! ### Values that are told apart -/

/-- The kinds of value that the first characters tell from one another. -/
inductive Kind where
  | null
  | text
  | array
  | object

/-- The kind of value that starts with these characters. -/
def Kind.ofChars : List Char → Kind
  | '[' :: _ => .array
  | '\x7b' :: _ => .object
  | '\\' :: '0' :: _ => .null
  | _ => .text

/-- The kind of a value. -/
def Kind.ofValue : Json → Kind
  | .null => .null
  | .array _ => .array
  | .object _ => .object
  | _ => .text

/-- The key ends at the first point and does not look like the end of an object. -/
def IsCutKey (key : String) : Prop :=
  '.' ∉ key.toList ∧ key.toList.head? ≠ some '\x7d'

instance (key : String) : Decidable (IsCutKey key) :=
  inferInstanceAs (Decidable (_ ∧ _))

theorem IsPlainKey.isCutKey {key : String} (h : IsPlainKey key) : IsCutKey key := by
  refine ⟨fun hmem => h '.' hmem (by decide), fun hhead => ?_⟩
  exact h '\x7d' (List.mem_of_mem_head? hhead) (by decide)

/-- A value without numbers and booleans, without lone empty texts in arrays and with keys that can
be cut off. -/
inductive Legible : Json → Prop
  | null : Legible .null
  | string (s : String) : Legible (.string s)
  | array {items : List Json} : (∀ item ∈ items, Legible item) → items ≠ [.string ""] →
      Legible (.array items)
  | object {members : Members} : (∀ m ∈ members, IsCutKey m.1) →
      (∀ m ∈ members, Legible m.2) → Legible (.object members)

theorem kind_text (cs : List Char) (hr : Ends r) :
    Kind.ofChars (cs.flatMap escape ++ r) = .text := by
  cases cs with
  | nil =>
    cases r with
    | nil => rfl
    | cons c r => rcases hr c rfl with rfl | rfl | rfl <;> rfl
  | cons c cs =>
    rw [List.flatMap_cons, List.append_assoc, escape]
    split_ifs with hc
    -- A zero is never escaped, so that no text starts like a null.
    · have hzero : c ≠ '0' := by
        rintro rfl
        exact absurd hc (by decide)
      unfold Kind.ofChars
      split <;> simp_all
    · unfold Kind.ofChars
      split <;> simp_all [isSpecial]

theorem kind_chars (v : Json) (hr : Ends r) : Kind.ofChars (chars v ++ r) = Kind.ofValue v := by
  cases v with
  | null => rw [chars_null]; rfl
  | bool b => rw [← chars_flatValue, flatValue, chars_string]; exact kind_text _ hr
  | number n => rw [← chars_flatValue, flatValue, chars_string]; exact kind_text _ hr
  | string s => rw [chars_string]; exact kind_text _ hr
  | array items => rw [chars_array]; rfl
  | object members => rw [chars_object]; rfl

theorem kind_eq_of_append_eq {v w : Json} (hr : Ends r) (hs : Ends s)
    (h : chars v ++ r = chars w ++ s) : Kind.ofValue v = Kind.ofValue w := by
  rw [← kind_chars v hr, h, kind_chars w hs]

/-- No other legible value could stand in the place of this one. -/
def IsToldApart (v : Json) : Prop :=
  ∀ w r s, Legible w → Ends r → Ends s → chars v ++ r = chars w ++ s → v = w ∧ r = s

theorem isToldApart_null : IsToldApart .null := by
  intro w r s hw hr hs h
  have hkind := kind_eq_of_append_eq hr hs h
  cases hw with
  | null => exact ⟨rfl, List.append_cancel_left h⟩
  | _ => cases hkind

theorem isToldApart_string (t : String) : IsToldApart (.string t) := by
  intro w r s hw hr hs h
  have hkind := kind_eq_of_append_eq hr hs h
  cases hw with
  | string u =>
    rw [chars_string, chars_string] at h
    obtain ⟨htext, hrest⟩ := eq_of_flatMap_escape_append_eq hr hs h
    exact ⟨congrArg Json.string (String.toList_inj.mp htext), hrest⟩
  | _ => cases hkind

/-- A bracket that closes at once stands for no items, unless the empty text is the only one. -/
theorem bracket_ne_joined {items : List Json} (hitems : ∀ item ∈ items, Legible item)
    (hnil : items ≠ []) (hlone : items ≠ [.string ""]) :
    ']' :: r ≠ joined chars items ++ ']' :: s := by
  intro h
  cases items with
  | nil => exact hnil rfl
  | cons item rest =>
    -- The empty text in front of the bracket leaves no other choice for the first item.
    have hitem :
        chars (.string "") ++ ']' :: r = chars item ++ (pointed chars rest ++ ']' :: s) := by
      simpa [joined] using h
    obtain ⟨rfl, htail⟩ := isToldApart_string "" item _ _ (hitems item List.mem_cons_self)
      (closes_bracket r).ends (ends_pointed chars rest (closes_bracket s)) hitem
    cases rest with
    | nil => exact hlone rfl
    | cons _ _ => cases htail

theorem isToldApart_array {items : List Json} (hitems : ∀ item ∈ items, Legible item)
    (hlone : items ≠ [.string ""]) (ih : ∀ item ∈ items, IsToldApart item) :
    IsToldApart (.array items) := by
  intro w r s hw hr hs h
  have hkind := kind_eq_of_append_eq hr hs h
  cases hw with
  | @array others hothers hlone' =>
    have hjoined : joined chars items ++ ']' :: r = joined chars others ++ ']' :: s := by
      simpa using h
    -- The points between the items are followed item by item up to the bracket.
    obtain ⟨rfl, hrest⟩ := eq_of_joined_append_eq
      (fun v hv w hw r s => ih v hv w r s (hothers w hw)) (closes_bracket r) (closes_bracket s)
      (fun hnil => bracket_ne_joined hitems hnil hlone)
      (fun hnil => bracket_ne_joined hothers hnil hlone') hjoined
    exact ⟨rfl, (List.cons_eq_cons.mp hrest).2⟩
  | _ => cases hkind

theorem eq_of_memberChars_append_eq {m n : String × Json} (hm : IsCutKey m.1)
    (hn : IsCutKey n.1) (hvalue : IsToldApart m.2) (hlegible : Legible n.2) (hr : Ends r)
    (hs : Ends s) (h : memberChars m ++ r = memberChars n ++ s) : m = n ∧ r = s := by
  rw [memberChars, memberChars, List.append_assoc, List.append_assoc, List.cons_append,
    List.cons_append] at h
  obtain ⟨hkey, htail⟩ := eq_of_key_append_eq hm.1 hn.1 h
  obtain ⟨heq, hrest⟩ := hvalue n.2 r s hlegible hr hs htail
  exact ⟨Prod.ext (String.toList_inj.mp hkey) heq, hrest⟩

/-- A brace that closes at once does not stand for members. -/
theorem brace_ne_joined {members : Members} (hkeys : ∀ m ∈ members, IsCutKey m.1)
    (hnil : members ≠ []) : '\x7d' :: r ≠ joined memberChars members ++ '\x7d' :: s := by
  intro h
  cases members with
  | nil => exact hnil rfl
  | cons m rest =>
    have hcut := hkeys m List.mem_cons_self
    rw [joined, memberChars] at h
    cases hkey : m.1.toList with
    | nil => simp [hkey] at h
    | cons c cs =>
      obtain rfl : c = '\x7d' := by
        simp [hkey] at h
        exact h.1.symm
      exact hcut.2 (congrArg List.head? hkey)

theorem isToldApart_object {members : Members} (hkeys : ∀ m ∈ members, IsCutKey m.1)
    (ih : ∀ m ∈ members, IsToldApart m.2) : IsToldApart (.object members) := by
  intro w r s hw hr hs h
  have hkind := kind_eq_of_append_eq hr hs h
  cases hw with
  | @object others hkeys' hothers =>
    have hjoined : joined memberChars members ++ '\x7d' :: r =
        joined memberChars others ++ '\x7d' :: s := by
      simpa using h
    obtain ⟨rfl, hrest⟩ := eq_of_joined_append_eq
      (fun m hm n hn _ _ => eq_of_memberChars_append_eq (hkeys m hm) (hkeys' n hn) (ih m hm)
        (hothers n hn))
      (closes_brace r) (closes_brace s) (brace_ne_joined hkeys)
      (brace_ne_joined hkeys') hjoined
    exact ⟨rfl, (List.cons_eq_cons.mp hrest).2⟩
  | _ => cases hkind

/-- The characters of a legible value tell it from every other one. -/
theorem Legible.isToldApart {v : Json} (h : Legible v) : IsToldApart v := by
  induction h with
  | null => exact isToldApart_null
  | string s => exact isToldApart_string s
  | array hitems hlone ih => exact isToldApart_array hitems hlone ih
  | object hkeys _ ih => exact isToldApart_object hkeys ih

theorem legible_flatValue {v : Json} (hv : IsCanonical v) (hkeys : HasKeys IsCutKey (toTree v)) :
    Legible (flatValue v) := by
  induction hv with
  | null => exact .null
  | bool b => exact .string _
  | number n => exact .string _
  | string s => exact .string s
  | @array items _ ih =>
    rw [toTree, toTrees_eq_map] at hkeys
    cases hkeys with
    | array hitems =>
      rw [flatValue, flatItems_eq_map]
      refine .array (fun item hmem => ?_) (dropLone_ne_singleton _ rfl)
      obtain ⟨i, hi, rfl⟩ := List.mem_map.mp (mem_of_mem_dropLone hmem)
      exact ih i hi (hitems _ (List.mem_map_of_mem hi))
  | @object members hsorted _ ih =>
    rw [toTree] at hkeys
    cases hkeys with
    | object hcut hvalues =>
      rw [flatValue, flatMembers_eq_map]
      refine .object (List.forall_mem_map.mpr fun m hm => ?_)
        (List.forall_mem_map.mpr fun m hm => ?_)
      · exact hcut m.1 _ (hsorted.toMap_eq_some_of_mem hm)
      · exact ih m hm (hvalues m.1 _ (hsorted.toMap_eq_some_of_mem hm))

/-! ### Canonical forms of transactions -/

/-- The members that the canonical form of the parameters lists, in their order. -/
def listed (params : Params) : Members :=
  Members.without omitted (canonicalMembers [] params)

variable {params a b : Params}

theorem isSorted_listed (params : Params) : (listed params).IsSorted :=
  (isSorted_canonicalMembers List.Pairwise.nil).without omitted

theorem isCanonical_of_mem_listed {m : String × Json} (h : m ∈ listed params) :
    IsCanonical m.2 :=
  forall_mem_canonicalMembers (List.forall_mem_nil _) (fun n _ => isCanonical_canonical n.2) m
    (List.mem_of_mem_filter h)

theorem toMap_listed (params : Params) (key : String) :
    toMap (listed params) key = if key ∈ omitted then none else toMap params key := by
  rw [listed, Members.toMap_without,
    toMap_canonicalMembers List.Pairwise.nil (fun m _ => toTree_canonical m.2), toMap,
    Option.or_none]

theorem toMap_flatMembers_listed (params : Params) :
    toMap (flatMembers (listed params)) = flat (toMap params) := by
  funext key
  rw [toMap_flatMembers (fun m _ => toTree_flatValue m.2), toMap_listed, flat]
  simp only [omitted, List.mem_cons, List.not_mem_nil, or_false]
  split_ifs <;> rfl

/-- The members that are listed can be cut off one by one. -/
theorem cut_of_mem_listed (h : HasKeys IsCutKey (toTree (.object params))) {m : String × Json}
    (hm : m ∈ listed params) : IsCutKey m.1 ∧ Legible (flatValue m.2) := by
  rw [toTree] at h
  cases h with
  | object hkeys hvalues =>
    have hvalue : toMap params m.1 = some (toTree m.2) := by
      have hat := (isSorted_listed params).toMap_eq_some_of_mem hm
      rw [toMap_listed] at hat
      split_ifs at hat
      exact hat
    exact ⟨hkeys m.1 _ hvalue, legible_flatValue (isCanonical_of_mem_listed hm)
      (hvalues m.1 _ hvalue)⟩

theorem text_eq_text_iff_pointed :
    text a = text b ↔
      pointed memberChars (flatMembers (listed a)) =
        pointed memberChars (flatMembers (listed b)) := by
  rw [pointed_flatMembers, pointed_flatMembers, ← String.toList_inj, toList_text, toList_text,
    List.append_cancel_left_eq, listed, listed]

theorem flatMembers_listed_inj :
    flatMembers (listed a) = flatMembers (listed b) ↔ flat (toMap a) = flat (toMap b) := by
  rw [← toMap_flatMembers_listed, ← toMap_flatMembers_listed]
  refine ⟨congrArg toMap, ?_⟩
  refine (isSorted_flatMembers (isSorted_listed a)).eq_of_toMap_eq
    (isSorted_flatMembers (isSorted_listed b)) ?_
  rw [flatMembers_eq_map, flatMembers_eq_map]
  refine List.forall_mem_map.mpr fun m hm => List.forall_mem_map.mpr fun n hn => ?_
  exact (isCanonical_flatValue (isCanonical_of_mem_listed hm)).eq_of_toTree_eq
    (isCanonical_flatValue (isCanonical_of_mem_listed hn))

/-- Two transactions whose keys can be cut off have one canonical form only if they are the same up
to what `flat` forgets. -/
theorem flatMembers_listed_eq_of_text_eq (ha : HasKeys IsCutKey (toTree (.object a)))
    (hb : HasKeys IsCutKey (toTree (.object b))) (h : text a = text b) :
    flatMembers (listed a) = flatMembers (listed b) := by
  rw [text_eq_text_iff_pointed] at h
  -- At the top there is no bracket, and the members end with the text.
  refine (eq_of_pointed_append_eq ?_ closes_nil closes_nil (congrArg (· ++ []) h)).1
  rw [flatMembers_eq_map, flatMembers_eq_map]
  refine List.forall_mem_map.mpr fun m hm => List.forall_mem_map.mpr fun n hn => ?_
  obtain ⟨hkey, hvalue⟩ := cut_of_mem_listed ha hm
  obtain ⟨hkey', hvalue'⟩ := cut_of_mem_listed hb hn
  exact fun r s => eq_of_memberChars_append_eq hkey hkey' hvalue.isToldApart hvalue'

/-- Two transactions without structuring characters in their keys have one canonical form if and
only if they are the same up to what `flat` forgets. -/
theorem text_eq_text_iff_flat_eq (ha : HasKeys IsPlainKey (toTree (.object a)))
    (hb : HasKeys IsPlainKey (toTree (.object b))) :
    text a = text b ↔ flat (toMap a) = flat (toMap b) := by
  rw [← flatMembers_listed_inj]
  constructor
  · have hcut := fun key (hkey : IsPlainKey key) => hkey.isCutKey
    exact flatMembers_listed_eq_of_text_eq (ha.mono hcut) (hb.mono hcut)
  · intro h
    rw [text_eq_text_iff_pointed]
    exact congrArg (pointed memberChars) h

/-- The order of the members does not count, nor does a number in the place of its text, nor a lone
empty text, nor the signature. -/
theorem text_eq_text_iff_flat_eq_reordered :
    text [("value", ofWord 5), ("data", .array [.string ""]), ("signature", .null)] =
        text [("data", .array []), ("value", .string "5")] ∧
      flat (toMap [("value", ofWord 5), ("data", .array [.string ""]), ("signature", .null)]) =
        flat (toMap [("data", .array []), ("value", .string "5")]) := by
  have htext : text [("value", ofWord 5), ("data", .array [.string ""]), ("signature", .null)] =
      text [("data", .array []), ("value", .string "5")] := by decide
  refine ⟨htext, (text_eq_text_iff_flat_eq ?_ ?_).mp htext⟩
  · refine .of_members (by decide) ?_
    simp only [List.forall_mem_cons]
    exact ⟨.number _, .array (List.forall_mem_singleton.mpr (.string "")), .null,
      List.forall_mem_nil _⟩
  · refine .of_members (by decide) ?_
    simp only [List.forall_mem_cons]
    exact ⟨.array (List.forall_mem_nil _), .string "5", List.forall_mem_nil _⟩

example : text [("data", .null)] ≠ text [("data", .string "\\0")] := by decide

end ScoreDeploy.Canonical
