import ScoreDeploy.Json.Basic
import Mathlib.Data.String.Basic

/-!
# What a JSON value says

An object is a map from keys to values, and a list of members only writes one down: the members may
stand in any order, and a later one takes the place of an earlier one with the same key. `Tree` is a
value whose objects are maps, and `toTree` reads it off a written value. `canonical` keeps the tree,
and two canonical values with the same tree are equal.
-/

namespace ScoreDeploy.Json

/-- Induction over values, where the items of an array and the values of an object may be assumed to
have the property. -/
@[elab_as_elim, induction_eliminator]
theorem induction {motive : Json → Prop} (null : motive .null) (bool : ∀ b, motive (.bool b))
    (number : ∀ n, motive (.number n)) (string : ∀ s, motive (.string s))
    (array : ∀ items, (∀ item ∈ items, motive item) → motive (.array items))
    (object : ∀ members, (∀ m ∈ members, motive m.2) → motive (.object members))
    (value : Json) : motive value :=
  @Json.rec motive (fun items => ∀ item ∈ items, motive item)
    (fun members => ∀ m ∈ members, motive m.2) (fun m => motive m.2)
    null bool number string array object
    (List.forall_mem_nil motive) (fun _ _ hitem hrest => List.forall_mem_cons.mpr ⟨hitem, hrest⟩)
    (List.forall_mem_nil _) (fun _ _ hm hrest => List.forall_mem_cons.mpr ⟨hm, hrest⟩)
    (fun _ _ hvalue => hvalue) value

/-! ### Trees -/

/-- A value whose objects are maps from keys to values. -/
inductive Tree where
  | null
  | bool (value : Bool)
  | number (value : Number)
  | string (value : String)
  | array (items : List Tree)
  | object (map : String → Option Tree)

mutual

/-- What a value says. -/
def toTree : Json → Tree
  | .null => .null
  | .bool b => .bool b
  | .number n => .number n
  | .string s => .string s
  | .array items => .array (toTrees items)
  | .object members => .object (toMap members)

/-- What the items say. -/
def toTrees : List Json → List Tree
  | [] => []
  | item :: rest => toTree item :: toTrees rest

/-- The map that the members write down, where the last one with a key gives its value. -/
def toMap : List (String × Json) → String → Option Tree
  | [] => fun _ => none
  | (key, value) :: rest => fun k =>
    (toMap rest k).or (if k = key then some (toTree value) else none)

end

theorem toTrees_eq_map (items : List Json) : toTrees items = items.map toTree := by
  induction items with
  | nil => rfl
  | cons item rest ih => rw [toTrees, ih, List.map_cons]

theorem toMap_cons (key : String) (value : Json) (rest : Members) (k : String) :
    toMap ((key, value) :: rest) k =
      (toMap rest k).or (if k = key then some (toTree value) else none) := by
  rw [toMap]

theorem toMap_eq_none {members : Members} {key : String} (h : ∀ m ∈ members, m.1 ≠ key) :
    toMap members key = none := by
  induction members with
  | nil => rfl
  | cons m rest ih =>
    obtain ⟨hm, hrest⟩ := List.forall_mem_cons.mp h
    rw [toMap_cons, ih hrest, if_neg hm.symm, Option.or_none]

theorem exists_mem_of_toMap_eq_some {members : Members} {key : String} {value : Tree}
    (h : toMap members key = some value) : ∃ m ∈ members, m.1 = key ∧ toTree m.2 = value := by
  induction members with
  | nil => cases h
  | cons m rest ih =>
    rw [toMap_cons, Option.or_eq_some_iff] at h
    rcases h with hrest | ⟨-, hm⟩
    · obtain ⟨n, hn, heq⟩ := ih hrest
      exact ⟨n, List.mem_cons_of_mem m hn, heq⟩
    · split_ifs at hm with hkey
      exact ⟨m, List.mem_cons_self, hkey.symm, Option.some.inj hm⟩

/-- A member whose key does not occur again sets the value of its key. -/
theorem toMap_cons_eq_ite {key : String} {rest : Members} (value : Json)
    (h : ∀ m ∈ rest, m.1 ≠ key) (k : String) :
    toMap ((key, value) :: rest) k = if k = key then some (toTree value) else toMap rest k := by
  rw [toMap_cons]
  split_ifs with hk
  · rw [hk, toMap_eq_none h, Option.none_or]
  · rw [Option.or_none]

/-! ### Sorted members -/

namespace Members

/-- The keys increase. -/
def IsSorted (members : Members) : Prop :=
  members.Pairwise fun m n => m.1 < n.1

variable {members rest : Members} {m : String × Json} {key : String} {value : Json}

theorem IsSorted.tail (h : IsSorted (m :: rest)) : IsSorted rest :=
  List.Pairwise.of_cons h

/-- The key in front does not occur again. -/
theorem IsSorted.ne_head (h : IsSorted (m :: rest)) : ∀ n ∈ rest, n.1 ≠ m.1 :=
  fun _ hn => (List.rel_of_pairwise_cons h hn).ne'

theorem IsSorted.ne_of_lt (h : IsSorted (m :: rest)) (hlt : key < m.1) :
    ∀ n ∈ m :: rest, n.1 ≠ key :=
  List.forall_mem_cons.mpr
    ⟨hlt.ne', fun _ hn => (hlt.trans (List.rel_of_pairwise_cons h hn)).ne'⟩

theorem mem_insert {n : String × Json} (h : n ∈ insert key value members) :
    n = (key, value) ∨ n ∈ members := by
  induction members with
  | nil => exact .inl (List.mem_singleton.mp h)
  | cons m rest ih =>
    rw [insert] at h
    split_ifs at h with hlt heq
    · exact List.mem_cons.mp h
    · exact (List.mem_cons.mp h).imp_right (List.mem_cons_of_mem m)
    · rcases List.mem_cons.mp h with rfl | hrest
      · exact .inr List.mem_cons_self
      · exact (ih hrest).imp_right (List.mem_cons_of_mem m)

theorem IsSorted.insert (h : IsSorted members) : IsSorted (insert key value members) := by
  induction members with
  | nil => exact List.pairwise_singleton _ _
  | cons m rest ih =>
    rw [Members.insert]
    split_ifs with hlt heq
    · refine List.pairwise_cons.mpr ⟨List.forall_mem_cons.mpr ⟨hlt, fun n hn => ?_⟩, h⟩
      exact hlt.trans (List.rel_of_pairwise_cons h hn)
    · subst heq
      exact List.pairwise_cons.mpr ⟨(List.pairwise_cons.mp h).1, h.tail⟩
    · refine List.pairwise_cons.mpr ⟨fun n hn => ?_, ih h.tail⟩
      rcases mem_insert hn with rfl | hrest
      · exact lt_of_le_of_ne (not_lt.mp hlt) (Ne.symm heq)
      · exact List.rel_of_pairwise_cons h hrest

/-- Insertion into sorted members sets the value of a key. -/
theorem IsSorted.toMap_insert (h : IsSorted members) (k : String) :
    toMap (Members.insert key value members) k =
      if k = key then some (toTree value) else toMap members k := by
  induction members with
  | nil => exact toMap_cons_eq_ite value (List.forall_mem_nil _) k
  | cons m rest ih =>
    -- The member comes to stand in front, in the place of this one, or behind it.
    rcases lt_trichotomy key m.1 with hlt | heq | hgt
    · rw [Members.insert, if_pos hlt]
      exact toMap_cons_eq_ite value (h.ne_of_lt hlt) k
    · rw [Members.insert, if_neg heq.not_lt, if_pos heq, toMap_cons_eq_ite value (heq ▸ h.ne_head),
        toMap_cons_eq_ite m.2 h.ne_head, ← heq]
      split_ifs <;> rfl
    · rw [Members.insert, if_neg hgt.asymm, if_neg hgt.ne', toMap_cons, ih h.tail, toMap_cons]
      by_cases hk : k = key
      · rw [if_pos hk, if_pos hk, Option.some_or]
      · rw [if_neg hk, if_neg hk]

theorem IsSorted.toMap_eq_some_of_mem (h : IsSorted members) (hm : m ∈ members) :
    toMap members m.1 = some (toTree m.2) := by
  induction members with
  | nil => exact absurd hm List.not_mem_nil
  | cons n rest ih =>
    rw [toMap_cons_eq_ite n.2 h.ne_head]
    rcases List.mem_cons.mp hm with rfl | hrest
    · exact if_pos rfl
    · rw [if_neg (h.ne_head m hrest), ih h.tail hrest]

theorem IsSorted.without (h : IsSorted members) (keys : List String) :
    IsSorted (without keys members) :=
  h.filter _

theorem toMap_without (keys : List String) (members : Members) (k : String) :
    toMap (without keys members) k = if k ∈ keys then none else toMap members k := by
  induction members with
  | nil => simp [without, toMap]
  | cons m rest ih =>
    by_cases hm : m.1 ∈ keys
    · rw [without, List.filter_cons_of_neg (by simpa using hm), ← without, ih, toMap_cons]
      by_cases hk : k = m.1
      · rw [hk, if_pos hm, if_pos hm]
      · rw [if_neg hk, Option.or_none]
    · rw [without, List.filter_cons_of_pos (by simpa using hm), ← without, toMap_cons, ih,
        toMap_cons]
      by_cases hk : k = m.1
      · rw [hk, if_neg hm, if_neg hm]
      · rw [if_neg hk, Option.or_none, Option.or_none]

end Members

/-! ### Canonical values -/

/-- The keys of all objects in the value increase. -/
inductive IsCanonical : Json → Prop
  | null : IsCanonical .null
  | bool (b : Bool) : IsCanonical (.bool b)
  | number (n : Number) : IsCanonical (.number n)
  | string (s : String) : IsCanonical (.string s)
  | array {items : List Json} : (∀ item ∈ items, IsCanonical item) → IsCanonical (.array items)
  | object {members : Members} : members.IsSorted → (∀ m ∈ members, IsCanonical m.2) →
      IsCanonical (.object members)

theorem canonicalItems_eq_append (done items : List Json) :
    canonicalItems done items = done.reverse ++ items.map canonical := by
  induction items generalizing done with
  | nil => rw [canonicalItems, List.map_nil, List.append_nil]
  | cons item rest ih =>
    rw [canonicalItems, ih, List.reverse_cons, List.append_assoc, List.map_cons,
      List.singleton_append]

theorem canonical_array (items : List Json) :
    canonical (.array items) = .array (items.map canonical) := by
  rw [canonical, canonicalItems_eq_append, List.reverse_nil, List.nil_append]

/-- Members that are inserted into sorted ones one after another leave them sorted. -/
theorem isSorted_canonicalMembers {done members : Members} (h : done.IsSorted) :
    (canonicalMembers done members).IsSorted := by
  induction members generalizing done with
  | nil => exact h
  | cons m rest ih => exact ih h.insert

/-- A property that the canonical values of the members have passes to all the members there are
after their insertion. -/
theorem forall_mem_canonicalMembers {p : Json → Prop} {done members : Members}
    (hdone : ∀ m ∈ done, p m.2) (h : ∀ m ∈ members, p (canonical m.2)) :
    ∀ m ∈ canonicalMembers done members, p m.2 := by
  induction members generalizing done with
  | nil => exact hdone
  | cons m rest ih =>
    obtain ⟨hm, hrest⟩ := List.forall_mem_cons.mp h
    refine ih (fun n hn => ?_) hrest
    rcases Members.mem_insert hn with rfl | hold
    · exact hm
    · exact hdone n hold

theorem isCanonical_canonical (value : Json) : IsCanonical (canonical value) := by
  induction value with
  | null => exact .null
  | bool b => exact .bool b
  | number n => exact .number n
  | string s => exact .string s
  | array items ih =>
    rw [canonical_array]
    exact .array (List.forall_mem_map.mpr ih)
  | object members ih =>
    exact .object (isSorted_canonicalMembers List.Pairwise.nil)
      (forall_mem_canonicalMembers (List.forall_mem_nil _) ih)

/-- The later members come before those that were there. -/
theorem toMap_canonicalMembers {done members : Members} (hdone : done.IsSorted)
    (h : ∀ m ∈ members, toTree (canonical m.2) = toTree m.2) (k : String) :
    toMap (canonicalMembers done members) k = (toMap members k).or (toMap done k) := by
  induction members generalizing done with
  | nil => rw [canonicalMembers, toMap, Option.none_or]
  | cons m rest ih =>
    obtain ⟨hm, hrest⟩ := List.forall_mem_cons.mp h
    rw [canonicalMembers, ih hdone.insert hrest, hdone.toMap_insert, toMap_cons,
      Option.or_assoc, hm]
    congr 1
    split_ifs
    · rw [Option.some_or]
    · rw [Option.none_or]

theorem toTree_canonical (value : Json) : toTree (canonical value) = toTree value := by
  induction value with
  | null => rfl
  | bool b => rfl
  | number n => rfl
  | string s => rfl
  | array items ih =>
    rw [canonical_array, toTree, toTree, toTrees_eq_map, toTrees_eq_map, List.map_map]
    exact congrArg Tree.array (List.map_congr_left ih)
  | object members ih =>
    rw [canonical, toTree, toTree]
    refine congrArg Tree.object (funext fun k => ?_)
    rw [toMap_canonicalMembers List.Pairwise.nil ih, toMap, Option.or_none]

/-! ### Canonical values are told apart by their trees -/

theorem eq_of_map_toTree_eq {items others : List Json}
    (hinj : ∀ item ∈ items, ∀ other ∈ others, toTree item = toTree other → item = other)
    (h : items.map toTree = others.map toTree) : items = others := by
  induction items generalizing others with
  | nil => exact (List.map_eq_nil_iff.mp h.symm).symm
  | cons item items ih =>
    cases others with
    | nil => cases h
    | cons other others =>
      obtain ⟨hhead, htail⟩ := List.cons_eq_cons.mp h
      have hrest := ih (fun x hx y hy =>
        hinj x (List.mem_cons_of_mem item hx) y (List.mem_cons_of_mem other hy)) htail
      rw [hinj item List.mem_cons_self other List.mem_cons_self hhead, hrest]

/-- Sorted members with the map of other sorted members start with no greater key. -/
theorem Members.IsSorted.head_le {m n : String × Json} {members others : Members}
    (ho : IsSorted (n :: others)) (hm : IsSorted (m :: members))
    (h : toMap (m :: members) = toMap (n :: others)) : n.1 ≤ m.1 := by
  by_contra hlt
  have hat := congrFun h m.1
  rw [hm.toMap_eq_some_of_mem List.mem_cons_self,
    toMap_eq_none (ho.ne_of_lt (not_le.mp hlt))] at hat
  cases hat

/-- Sorted members are the only ones of their map, if their values are the only ones of their
trees. -/
theorem Members.IsSorted.eq_of_toMap_eq {members others : Members} (hm : members.IsSorted)
    (ho : others.IsSorted)
    (hinj : ∀ m ∈ members, ∀ n ∈ others, toTree m.2 = toTree n.2 → m.2 = n.2)
    (h : toMap members = toMap others) : members = others := by
  induction members generalizing others with
  | nil =>
    cases others with
    | nil => rfl
    | cons n others =>
      have hat := congrFun h n.1
      rw [ho.toMap_eq_some_of_mem List.mem_cons_self, toMap] at hat
      cases hat
  | cons m members ih =>
    cases others with
    | nil =>
      have hat := congrFun h m.1
      rw [hm.toMap_eq_some_of_mem List.mem_cons_self, toMap] at hat
      cases hat
    | cons n others =>
      -- Both lists start with the smallest key of the one map.
      have hkey : m.1 = n.1 := le_antisymm (hm.head_le ho h.symm) (ho.head_le hm h)
      have hvalue : m.2 = n.2 := by
        have hat := congrFun h m.1
        rw [hm.toMap_eq_some_of_mem List.mem_cons_self, hkey,
          ho.toMap_eq_some_of_mem List.mem_cons_self] at hat
        exact hinj m List.mem_cons_self n List.mem_cons_self (Option.some.inj hat)
      have hrest : toMap members = toMap others := by
        funext k
        by_cases hk : k = m.1
        · rw [hk, toMap_eq_none hm.ne_head, toMap_eq_none (hkey ▸ ho.ne_head)]
        · have hat := congrFun h k
          rw [toMap_cons_eq_ite m.2 hm.ne_head, toMap_cons_eq_ite n.2 ho.ne_head, if_neg hk,
            if_neg (hkey ▸ hk)] at hat
          exact hat
      rw [Prod.ext hkey hvalue, ih hm.tail ho.tail (fun x hx y hy =>
        hinj x (List.mem_cons_of_mem m hx) y (List.mem_cons_of_mem n hy)) hrest]

theorem IsCanonical.eq_of_toTree_eq {v w : Json} (hv : IsCanonical v) (hw : IsCanonical w)
    (h : toTree v = toTree w) : v = w := by
  induction hv generalizing w with
  | null => cases hw <;> simp_all [toTree]
  | bool b => cases hw <;> simp_all [toTree]
  | number n => cases hw <;> simp_all [toTree]
  | string s => cases hw <;> simp_all [toTree]
  | array hitems ih =>
    cases hw with
    | array hothers =>
      rw [toTree, toTree, toTrees_eq_map, toTrees_eq_map] at h
      exact congrArg Json.array (eq_of_map_toTree_eq
        (fun item hitem other hother => ih item hitem (hothers other hother)) (Tree.array.inj h))
    | _ => simp [toTree] at h
  | object hsorted hvalues ih =>
    cases hw with
    | object hsorted' hvalues' =>
      rw [toTree, toTree] at h
      exact congrArg Json.object (hsorted.eq_of_toMap_eq hsorted'
        (fun m hm n hn => ih m hm (hvalues' n hn)) (Tree.object.inj h))
    | _ => simp [toTree] at h

/-- Two values have one canonical form if and only if they say the same. -/
theorem canonical_eq_canonical_iff {v w : Json} :
    canonical v = canonical w ↔ toTree v = toTree w := by
  constructor
  · intro h
    rw [← toTree_canonical v, h, toTree_canonical]
  · intro h
    refine (isCanonical_canonical v).eq_of_toTree_eq (isCanonical_canonical w) ?_
    rw [toTree_canonical, toTree_canonical, h]

end ScoreDeploy.Json
