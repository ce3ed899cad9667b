import ScoreDeploy.Proofs.Json.Members
import ScoreDeploy.Transaction.Parameters

/-!
# The wire form of parameters

The wire form is taken value by value: it keeps keys, their order and the shape of arrays and
objects, and leaves neither numbers nor booleans. It can be taken before or after a value is brought
into canonical form.
-/

namespace ScoreDeploy.Params

open Json

theorem wireItems_eq_append (done items : List Json) :
    wireItems done items = done.reverse ++ items.map wireValue := by
  induction items generalizing done with
  | nil => rw [wireItems, List.map_nil, List.append_nil]
  | cons item rest ih =>
    rw [wireItems, ih, List.reverse_cons, List.append_assoc, List.map_cons]
    rfl

theorem wireMembers_eq_append (done params : Params) :
    wireMembers done params = done.reverse ++ params.map fun m => (m.1, wireValue m.2) := by
  induction params generalizing done with
  | nil => rw [wireMembers, List.map_nil, List.append_nil]
  | cons m rest ih =>
    rw [wireMembers, ih, List.reverse_cons, List.append_assoc, List.map_cons]
    rfl

theorem wireForm_eq_map (params : Params) :
    wireForm params = params.map fun m => (m.1, wireValue m.2) := by
  rw [wireForm, wireMembers_eq_append, List.reverse_nil, List.nil_append]

theorem wireValue_array (items : List Json) :
    wireValue (.array items) = .array (items.map wireValue) := by
  rw [wireValue, wireItems_eq_append, List.reverse_nil, List.nil_append]

theorem wireValue_object (members : Members) :
    wireValue (.object members) = .object (wireForm members) := by
  rw [wireValue, wireForm]

/-- A value without numbers and booleans. -/
inductive IsWire : Json → Prop
  | null : IsWire .null
  | string (s : String) : IsWire (.string s)
  | array {items : List Json} : (∀ item ∈ items, IsWire item) → IsWire (.array items)
  | object {members : Members} : (∀ m ∈ members, IsWire m.2) → IsWire (.object members)

theorem isWire_wireValue (value : Json) : IsWire (wireValue value) := by
  induction value with
  | null => exact .null
  | bool b => exact .string _
  | number n => exact .string _
  | string s => exact .string s
  | array items ih =>
    rw [wireValue_array]
    exact .array (List.forall_mem_map.mpr ih)
  | object members ih =>
    rw [wireValue_object, wireForm_eq_map]
    exact .object (List.forall_mem_map.mpr ih)

/-- A key has no value before and after, or it has one, which is brought into wire form. -/
theorem toMap_wireForm_cases (params : Params) (key : String) :
    toMap params key = none ∧ toMap (wireForm params) key = none ∨
      ∃ m ∈ params, m.1 = key ∧ toMap params key = some (toTree m.2) ∧
        toMap (wireForm params) key = some (toTree (wireValue m.2)) := by
  rw [wireForm_eq_map]
  induction params with
  | nil => exact .inl ⟨rfl, rfl⟩
  | cons m rest ih =>
    rw [List.map_cons, toMap_cons, toMap_cons]
    rcases ih with ⟨hbefore, hafter⟩ | ⟨n, hn, hkey, hbefore, hafter⟩
    · rw [hbefore, hafter, Option.none_or, Option.none_or]
      by_cases hm : key = m.1
      · rw [if_pos hm, if_pos hm]
        exact .inr ⟨m, List.mem_cons_self, hm.symm, rfl, rfl⟩
      · rw [if_neg hm, if_neg hm]
        exact .inl ⟨rfl, rfl⟩
    · rw [hbefore, hafter]
      exact .inr ⟨n, List.mem_cons_of_mem m hn, hkey, rfl, rfl⟩

/-! ### Canonical forms -/

theorem wireForm_insert (key : String) (value : Json) (params : Params) :
    wireForm (Members.insert key value params) =
      Members.insert key (wireValue value) (wireForm params) := by
  induction params with
  | nil => rfl
  | cons m rest ih =>
    rw [wireForm_eq_map, wireForm_eq_map] at ih
    rw [wireForm_eq_map, wireForm_eq_map, Members.insert, List.map_cons, Members.insert]
    split_ifs
    · rfl
    · rfl
    · rw [List.map_cons, ih]

theorem wireForm_canonicalMembers {done params : Params}
    (h : ∀ m ∈ params, wireValue m.2.canonical = (wireValue m.2).canonical) :
    wireForm (canonicalMembers done params) =
      canonicalMembers (wireForm done) (wireForm params) := by
  induction params generalizing done with
  | nil => rfl
  | cons m rest ih =>
    obtain ⟨hm, hrest⟩ := List.forall_mem_cons.mp h
    rw [canonicalMembers, ih hrest, wireForm_insert, hm, wireForm_eq_map (m :: rest), List.map_cons,
      canonicalMembers, wireForm_eq_map rest]

/-- It makes no difference whether a value is first brought into order or into wire form. -/
theorem wireValue_canonical (value : Json) :
    wireValue value.canonical = (wireValue value).canonical := by
  induction value with
  | null => rfl
  | bool b => rfl
  | number n => rfl
  | string s => rfl
  | array items ih =>
    rw [canonical_array, wireValue_array, wireValue_array, canonical_array, List.map_map,
      List.map_map]
    exact congrArg Json.array (List.map_congr_left ih)
  | object members ih =>
    rw [canonical, wireValue_object, wireValue_object, canonical, wireForm_canonicalMembers ih]
    rfl

end ScoreDeploy.Params
