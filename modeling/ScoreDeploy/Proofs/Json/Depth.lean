import ScoreDeploy.Proofs.Json.Reread

/-!
# What readers give

A value that is read from a text is canonical, and its brackets are not nested deeper than the
reader allows. If its numbers read back, so does the whole value.
-/

namespace ScoreDeploy.Json

variable {p q : Number → Prop} {depth : Nat} {value : Json} {cs rest : List Char}

namespace Fits

theorem succ (h : Fits p depth value) : Fits p (depth + 1) value := by
  induction h with
  | null depth => exact .null _
  | bool depth b => exact .bool _ b
  | number depth hn => exact .number _ hn
  | string depth s => exact .string _ s
  | array _ ih => exact .array ih
  | object _ ih => exact .object ih

theorem canonical (h : Fits p depth value) : Fits p depth value.canonical := by
  induction h with
  | null depth => exact .null _
  | bool depth b => exact .bool _ b
  | number depth hn => exact .number _ hn
  | string depth s => exact .string _ s
  | array _ ih =>
    rw [canonical_array]
    exact .array (List.forall_mem_map.mpr ih)
  | object _ ih => exact .object (forall_mem_canonicalMembers (List.forall_mem_nil _) ih)

end Fits

/-- The number occurs in the value. -/
inductive HasNumber (n : Number) : Json → Prop
  | here : HasNumber n (.number n)
  | item {items : List Json} {item : Json} : item ∈ items → HasNumber n item →
      HasNumber n (.array items)
  | member {members : Members} {m : String × Json} : m ∈ members → HasNumber n m.2 →
      HasNumber n (.object members)

theorem Fits.of_hasNumber {n : Number} (h : Fits p depth value) (hn : HasNumber n value) : p n := by
  induction hn generalizing depth with
  | here =>
    cases h with
    | number _ hp => exact hp
  | item hitem _ ih =>
    cases h with
    | array hitems => exact ih (hitems _ hitem)
  | member hm _ ih =>
    cases h with
    | object hmembers => exact ih (hmembers _ hm)

theorem Fits.of_forall_hasNumber (h : Fits p depth value) (hq : ∀ n, HasNumber n value → q n) :
    Fits q depth value := by
  induction h with
  | null depth => exact .null _
  | bool depth b => exact .bool _ b
  | number depth _ => exact .number _ (hq _ .here)
  | string depth s => exact .string _ s
  | array _ ih => exact .array fun item hitem => ih item hitem fun n hn => hq n (.item hitem hn)
  | object _ ih => exact .object fun m hm => ih m hm fun n hn => hq n (.member hm hn)

/-! ### Nesting -/

theorem fits_scalar (h : scalar cs = .ok (value, rest)) : Fits (fun _ => True) depth value := by
  unfold scalar at h
  split at h
  · cases h
  · obtain ⟨_, -, hpair⟩ := Except.bind_eq_ok_iff.mp h
    cases hpair
    exact .null _
  · obtain ⟨_, -, hpair⟩ := Except.bind_eq_ok_iff.mp h
    cases hpair
    exact .bool _ _
  · obtain ⟨_, -, hpair⟩ := Except.bind_eq_ok_iff.mp h
    cases hpair
    exact .bool _ _
  · obtain ⟨_, -, hpair⟩ := Except.bind_eq_ok_iff.mp h
    cases hpair
    exact .string _ _
  · obtain ⟨_, -, hpair⟩ := Except.bind_eq_ok_iff.mp h
    cases hpair
    exact .number _ trivial
  · split at h
    · obtain ⟨_, -, hpair⟩ := Except.bind_eq_ok_iff.mp h
      cases hpair
      exact .number _ trivial
    · cases h

/-- What the readers give within that many steps is not nested too deep. -/
structure KeepDepth (fuel : Nat) : Prop where
  tree_fits : ∀ {depth cs value rest}, tree fuel depth cs = .ok (value, rest) →
    Fits (fun _ => True) depth value
  items_fit : ∀ {depth done cs value rest}, (∀ item ∈ done, Fits (fun _ => True) depth item) →
    treeItems fuel depth done cs = .ok (value, rest) → Fits (fun _ => True) (depth + 1) value
  members_fit : ∀ {depth done cs value rest}, (∀ m ∈ done, Fits (fun _ => True) depth m.2) →
    treeMembers fuel depth done cs = .ok (value, rest) → Fits (fun _ => True) (depth + 1) value

namespace KeepDepth

variable {fuel : Nat}

theorem tree_succ (ih : KeepDepth fuel) (h : tree (fuel + 1) depth cs = .ok (value, rest)) :
    Fits (fun _ => True) depth value := by
  rw [tree] at h
  split at h
  · cases depth with
    | zero => cases h
    | succ depth =>
      dsimp only at h
      split at h
      · cases h
        exact .array (List.forall_mem_nil _)
      · exact ih.items_fit (List.forall_mem_nil _) h
  · cases depth with
    | zero => cases h
    | succ depth =>
      dsimp only at h
      split at h
      · cases h
        exact .object (List.forall_mem_nil _)
      · exact ih.members_fit (List.forall_mem_nil _) h
  · exact fits_scalar h

theorem items_succ (ih : KeepDepth fuel) {done : List Json}
    (hdone : ∀ item ∈ done, Fits (fun _ => True) depth item)
    (h : treeItems (fuel + 1) depth done cs = .ok (value, rest)) :
    Fits (fun _ => True) (depth + 1) value := by
  rw [treeItems] at h
  split at h
  · cases h
  · next item more htree =>
    have hall : ∀ i ∈ item :: done, Fits (fun _ => True) depth i :=
      List.forall_mem_cons.mpr ⟨ih.tree_fits htree, hdone⟩
    split at h
    · exact ih.items_fit hall h
    · cases h
      exact .array fun i hi => hall i (List.mem_reverse.mp hi)
    · cases h
    · cases h

theorem members_succ (ih : KeepDepth fuel) {done : Members}
    (hdone : ∀ m ∈ done, Fits (fun _ => True) depth m.2)
    (h : treeMembers (fuel + 1) depth done cs = .ok (value, rest)) :
    Fits (fun _ => True) (depth + 1) value := by
  rw [treeMembers] at h
  split at h
  · cases h
  · next name more hkey =>
    split at h
    · cases h
    · next item more' htree =>
      have hall : ∀ m ∈ (name, item) :: done, Fits (fun _ => True) depth m.2 :=
        List.forall_mem_cons.mpr ⟨ih.tree_fits htree, hdone⟩
      split at h
      · exact ih.members_fit hall h
      · cases h
        exact .object fun m hm => hall m (List.mem_reverse.mp hm)
      · cases h
      · cases h

end KeepDepth

theorem keepDepth (fuel : Nat) : KeepDepth fuel := by
  induction fuel with
  | zero => exact ⟨nofun, fun _ => nofun, fun _ => nofun⟩
  | succ fuel ih => exact ⟨ih.tree_succ, ih.items_succ, ih.members_succ⟩

/-- A value that is read from a text is canonical and not nested too deep. -/
theorem isCanonical_and_fits_of_read {text : String} (h : read text = .ok value) :
    IsCanonical value ∧ Fits (fun _ => True) maxDepth value := by
  obtain ⟨v, rest, hread, -, rfl⟩ := exists_tree_of_read h
  exact ⟨isCanonical_canonical v, ((keepDepth _).tree_fits hread).canonical⟩

/-! ### Canonical values -/

theorem IsCanonical.canonical_eq (h : IsCanonical value) : value.canonical = value :=
  (isCanonical_canonical value).eq_of_toTree_eq h (toTree_canonical value)

/-- The canonical form of members with canonical values is their insertion one after another. -/
theorem canonicalMembers_eq_ofList {members : Members} (h : ∀ m ∈ members, m.2.canonical = m.2) :
    canonicalMembers [] members = Members.ofList members := by
  suffices ∀ done, canonicalMembers done members =
      members.foldl (fun members m => Members.insert m.1 m.2 members) done from this []
  intro done
  induction members generalizing done with
  | nil => rfl
  | cons m rest ih =>
    obtain ⟨hm, hrest⟩ := List.forall_mem_cons.mp h
    rw [canonicalMembers, List.foldl_cons, hm, ih hrest]

/-! ### Values that read back -/

/-- What was written is read back in its canonical form. -/
theorem read_pretty_eq_canonical (hfits : Fits Number.IsToken maxDepth value) :
    read value.pretty = .ok value.canonical := by
  have hfuel : (prettyChars 0 value).length ≤ enoughSteps (prettyChars 0 value) := by
    rw [enoughSteps]
    omega
  have hends : EndsNumber [] := by
    rintro c ⟨⟩
  have htree := (rereads hfits).tree_eq _ 0 [] [] hfuel areBlank_nil hends
  rw [List.nil_append, List.append_nil] at htree
  have hread : readTree value.pretty = .ok value := by
    rw [readTree, toList_pretty, htree]
    rfl
  rw [read, hread, Except.map]

/-- What was written is read back. -/
theorem read_pretty (hcanonical : IsCanonical value) (hfits : Fits Number.IsToken maxDepth value) :
    read value.pretty = .ok value := by
  rw [read_pretty_eq_canonical hfits, hcanonical.canonical_eq]

/-- The value was read from a text, and each of its floats is read from its own text. -/
structure IsParsed (value : Json) : Prop where
  exists_text : ∃ text, read text = .ok value
  read_float : ∀ x, value.HasNumber (.float x) → read x.text = .ok (.number (.float x))

theorem IsParsed.fits (h : value.IsParsed) :
    IsCanonical value ∧ Fits Number.IsToken maxDepth value := by
  obtain ⟨text, htext⟩ := h.exists_text
  obtain ⟨hcanonical, hfits⟩ := isCanonical_and_fits_of_read htext
  refine ⟨hcanonical, hfits.of_forall_hasNumber fun n hn => ?_⟩
  cases n with
  | integer n => exact isToken_integer n
  | float x => exact isToken_of_read (h.read_float x hn)

/-- Values without floats are read from what they are written as. -/
theorem IsParsed.of_integers (hcanonical : IsCanonical value)
    (hfits : Fits (fun n => ∃ i, n = .integer i) maxDepth value) : value.IsParsed := by
  constructor
  · refine ⟨value.pretty, read_pretty hcanonical (hfits.of_forall_hasNumber fun n hn => ?_)⟩
    obtain ⟨i, rfl⟩ := hfits.of_hasNumber hn
    exact isToken_integer i
  · intro x hx
    obtain ⟨i, hi⟩ := hfits.of_hasNumber hx
    cases hi

/-- A member lies one bracket deeper. -/
theorem IsParsed.member {part : Json} {key : String} (h : value.IsParsed)
    (hpart : value.member? key = some part) :
    IsCanonical part ∧ Fits Number.IsToken 126 part := by
  obtain ⟨hcanonical, hfits⟩ := h.fits
  cases hcanonical with
  | @object members _ hvalues =>
    have hmem : (key, part) ∈ members := by
      obtain ⟨_, _, hmembers, -⟩ := List.lookup_eq_some_iff.mp hpart
      rw [hmembers]
      exact List.mem_append_right _ List.mem_cons_self
    generalize hdepth : maxDepth = depth at hfits
    cases hfits with
    | object hfits =>
      cases hdepth
      exact ⟨hvalues _ hmem, hfits _ hmem⟩
  | _ => cases hpart

end ScoreDeploy.Json
