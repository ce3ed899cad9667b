import ScoreDeploy.Proofs.Json.Tree

/-!
# Members of an object one by one

The value of a key after an insertion, and after many of them, is that of the last one with the key.
Leaving out keys leaves out their insertions.
-/

namespace ScoreDeploy.Json.Members

variable {key : String} {value : Json} {members : Members} {keys : List String}

/-! ### Values of keys -/

theorem get?_cons (m : String × Json) (rest : Members) (k : String) :
    get? (m :: rest) k = if k = m.1 then some m.2 else get? rest k := by
  by_cases h : k = m.1
  · rw [if_pos h, get?, List.lookup_cons, beq_iff_eq.mpr h]
  · rw [if_neg h, get?, List.lookup_cons, beq_eq_false_iff_ne.mpr h]
    rfl

theorem get?_eq_none (h : ∀ m ∈ members, m.1 ≠ key) :
    get? members key = none := by
  induction members with
  | nil => rfl
  | cons m rest ih =>
    obtain ⟨hm, hrest⟩ := List.forall_mem_cons.mp h
    rw [get?_cons, if_neg hm.symm, ih hrest]

theorem mem_of_get?_eq_some (h : get? members key = some value) : (key, value) ∈ members := by
  obtain ⟨front, back, rfl, -⟩ := List.lookup_eq_some_iff.mp h
  exact List.mem_append_right front List.mem_cons_self

theorem get?_append (first rest : Members) (k : String) :
    get? (first ++ rest) k = (get? first k).or (get? rest k) :=
  List.lookup_append

theorem get?_insert (k : String) :
    get? (insert key value members) k = if k = key then some value else get? members k := by
  induction members with
  | nil => exact get?_cons _ _ _
  | cons m rest ih =>
    -- The member comes to stand in front, in the place of this one, or behind it.
    rcases lt_trichotomy key m.1 with hlt | heq | hgt
    · rw [insert, if_pos hlt]
      exact get?_cons _ _ _
    · rw [insert, if_neg heq.not_lt, if_pos heq, get?_cons, get?_cons, heq]
      split_ifs <;> rfl
    · rw [insert, if_neg hgt.asymm, if_neg hgt.ne', get?_cons, get?_cons, ih]
      by_cases hk : k = key
      · rw [if_pos hk, if_pos hk, if_neg (hk ▸ hgt.ne')]
      · rw [if_neg hk, if_neg hk]

/-- Of several members with one key the last one that is inserted counts. -/
theorem get?_ofList (pairs : Members) (k : String) :
    get? (ofList pairs) k = get? pairs.reverse k := by
  suffices ∀ members, get? (pairs.foldl (fun members m => insert m.1 m.2 members) members) k =
      (get? pairs.reverse k).or (get? members k) from (this []).trans Option.or_none
  intro members
  induction pairs generalizing members with
  | nil => rfl
  | cons m rest ih =>
    rw [List.foldl_cons, ih, get?_insert, List.reverse_cons, get?_append, Option.or_assoc,
      get?_cons]
    split_ifs <;> rfl

/-! ### Sorted members -/

theorem IsSorted.get?_eq_some_iff (h : members.IsSorted) :
    get? members key = some value ↔ (key, value) ∈ members := by
  induction members with
  | nil => simp [get?]
  | cons m rest ih =>
    rw [get?_cons, List.mem_cons]
    by_cases hkey : key = m.1
    · rw [if_pos hkey, Option.some.injEq]
      constructor
      · rintro rfl
        exact .inl (Prod.ext hkey rfl)
      · rintro (heq | hrest)
        · exact congrArg Prod.snd heq.symm
        · exact absurd hkey (h.ne_head _ hrest)
    · rw [if_neg hkey, ih h.tail]
      constructor
      · exact .inr
      · rintro (heq | hrest)
        · exact absurd (congrArg Prod.fst heq) hkey
        · exact hrest

theorem IsSorted.get?_filter (h : members.IsSorted) (p : String × Json → Bool) (k : String) :
    get? (members.filter p) k = (get? members k).filter fun v => p (k, v) := by
  have hkept : IsSorted (members.filter p) := h.filter p
  ext v
  rw [hkept.get?_eq_some_iff, List.mem_filter, Option.filter_eq_some_iff, h.get?_eq_some_iff]

theorem IsSorted.get?_filter_eq (h : members.IsSorted) {p : String × Json → Bool} {k : String}
    (hp : ∀ v, p (k, v) = true) : get? (members.filter p) k = get? members k := by
  rw [h.get?_filter]
  cases get? members k with
  | none => rfl
  | some v => exact Option.filter_some_pos (hp v)

/-- Sorted members are told by the values of their keys. -/
theorem IsSorted.eq_of_get?_eq {others : Members} (h : members.IsSorted) (ho : others.IsSorted)
    (heq : ∀ k, get? members k = get? others k) : members = others := by
  have hmem : ∀ m, m ∈ members ↔ m ∈ others := by
    intro m
    rw [← h.get?_eq_some_iff, ← ho.get?_eq_some_iff, heq]
  have hnodup : ∀ {list : Members}, list.IsSorted → list.Nodup := fun hlist =>
    hlist.imp fun hlt heq => hlt.ne (congrArg Prod.fst heq)
  have hperm : members.Perm others :=
    (List.perm_ext_iff_of_nodup (hnodup h) (hnodup ho)).mpr hmem
  exact hperm.eq_of_pairwise (fun m n _ _ hlt hgt => absurd hgt hlt.asymm) h ho

/-! ### Leaving out keys -/

theorem without_cons (m : String × Json) (rest : Members) :
    without keys (m :: rest) =
      if m.1 ∈ keys then without keys rest else m :: without keys rest := by
  by_cases h : m.1 ∈ keys
  · rw [if_pos h, without, List.filter_cons_of_neg (by simpa using h), without]
  · rw [if_neg h, without, List.filter_cons_of_pos (by simpa using h), without]

theorem without_append (first rest : Members) :
    without keys (first ++ rest) = without keys first ++ without keys rest :=
  List.filter_append _ _

theorem insert_of_forall_lt (h : ∀ m ∈ members, key < m.1) :
    insert key value members = (key, value) :: members := by
  cases members with
  | nil => rfl
  | cons m rest => rw [insert, if_pos (h m List.mem_cons_self)]

theorem without_insert (h : members.IsSorted) :
    without keys (insert key value members) =
      if key ∈ keys then without keys members else insert key value (without keys members) := by
  induction members with
  | nil => exact without_cons _ _
  | cons m rest ih =>
    rcases lt_trichotomy key m.1 with hlt | heq | hgt
    · have hleft : ∀ n ∈ without keys (m :: rest), key < n.1 := fun n hn =>
        match List.mem_cons.mp (List.mem_of_mem_filter hn) with
        | .inl hhead => hhead ▸ hlt
        | .inr hrest => hlt.trans (List.rel_of_pairwise_cons h hrest)
      rw [insert, if_pos hlt, without_cons, insert_of_forall_lt hleft]
    · have hleft : ∀ n ∈ without keys rest, key < n.1 := fun n hn =>
        heq ▸ List.rel_of_pairwise_cons h (List.mem_of_mem_filter hn)
      rw [insert, if_neg heq.not_lt, if_pos heq, without_cons, without_cons, ← heq]
      split_ifs with hkey
      · rfl
      · rw [insert, if_neg heq.not_lt, if_pos heq]
    · rw [insert, if_neg hgt.asymm, if_neg hgt.ne', without_cons, without_cons, ih h.tail]
      split_ifs with hm hkey hkey
      · rfl
      · rfl
      · rfl
      · rw [insert, if_neg hgt.asymm, if_neg hgt.ne']

theorem isSorted_ofList (pairs : Members) : (ofList pairs).IsSorted := by
  suffices ∀ members : Members, members.IsSorted →
      (pairs.foldl (fun members m => insert m.1 m.2 members) members).IsSorted from
    this [] List.Pairwise.nil
  intro members h
  induction pairs generalizing members with
  | nil => exact h
  | cons m rest ih => exact ih _ h.insert

/-- Members that are left out might as well not have been inserted. -/
theorem without_ofList (keys : List String) (pairs : Members) :
    without keys (ofList pairs) = ofList (without keys pairs) := by
  suffices ∀ members : Members, members.IsSorted →
      without keys (pairs.foldl (fun members m => insert m.1 m.2 members) members) =
        (without keys pairs).foldl (fun members m => insert m.1 m.2 members)
          (without keys members) from this [] List.Pairwise.nil
  intro members h
  induction pairs generalizing members with
  | nil => rfl
  | cons m rest ih =>
    rw [List.foldl_cons, ih _ h.insert, without_insert h, without_cons]
    split_ifs <;> rfl

end ScoreDeploy.Json.Members
