import ScoreDeploy.Proofs.Json.Tree
import ScoreDeploy.Json.Text

/-!
# What a canonical form keeps

A canonical form does not tell a number or a boolean from its text, nor an array that holds nothing
but the empty text from an empty array, and it leaves out the signature and the hash at the top.
`flat` forgets exactly that. `flatValue` does the same to a written value and keeps it canonical.
-/

namespace ScoreDeploy.Canonical

open ScoreDeploy.Json

/-! ### Flat trees -/

/-- The items, or none if there is a single one and it has the property. -/
def dropLone {α : Type} (p : α → Bool) : List α → List α
  | [a] => if p a then [] else [a]
  | items => items

/-- Whether the tree is the empty text. -/
def isBlank : Tree → Bool
  | .string s => s == ""
  | _ => false

mutual

/-- The tree with texts for numbers and booleans, and without lone empty texts in arrays. -/
def flatTree : Tree → Tree
  | .null => .null
  | .bool b => .string (compact (.bool b))
  | .number n => .string (compact (.number n))
  | .string s => .string s
  | .array items => .array (dropLone isBlank (flatTrees items))
  | .object map => .object fun key => flatEntry (map key)

/-- The flat forms of the items. -/
def flatTrees : List Tree → List Tree
  | [] => []
  | item :: rest => flatTree item :: flatTrees rest

/-- The flat form of the value that a key may have. -/
def flatEntry : Option Tree → Option Tree
  | none => none
  | some value => some (flatTree value)

end

/-- What a canonical form keeps of a map of parameters. -/
def flat (map : String → Option Tree) : String → Option Tree := fun key =>
  if key = "signature" ∨ key = "txHash" then none else flatEntry (map key)

/-- The key has none of the characters that structure a canonical form. -/
def IsPlainKey (key : String) : Prop :=
  ∀ c ∈ key.toList, c ∉ ['\\', '.', '\x7b', '\x7d', '[', ']']

/-- The keys at every depth have the property. -/
inductive HasKeys (p : String → Prop) : Tree → Prop
  | null : HasKeys p .null
  | bool (b : Bool) : HasKeys p (.bool b)
  | number (n : Number) : HasKeys p (.number n)
  | string (s : String) : HasKeys p (.string s)
  | array {items : List Tree} : (∀ item ∈ items, HasKeys p item) → HasKeys p (.array items)
  | object {map : String → Option Tree} : (∀ key value, map key = some value → p key) →
      (∀ key value, map key = some value → HasKeys p value) → HasKeys p (.object map)

theorem HasKeys.mono {p q : String → Prop} (hpq : ∀ key, p key → q key) {t : Tree}
    (h : HasKeys p t) : HasKeys q t := by
  induction h with
  | null => exact .null
  | bool b => exact .bool b
  | number n => exact .number n
  | string s => exact .string s
  | array _ ih => exact .array ih
  | object hkeys _ ih => exact .object (fun key value hmap => hpq key (hkeys key value hmap)) ih

variable {α β : Type} {p : α → Bool} {q : β → Bool} {f : α → β}

theorem mem_of_mem_dropLone {items : List α} {a : α} (h : a ∈ dropLone p items) : a ∈ items := by
  unfold dropLone at h
  split at h
  · split_ifs at h
    · exact absurd h List.not_mem_nil
    · exact h
  · exact h

theorem dropLone_ne_singleton (items : List α) {a : α} (ha : p a = true) :
    dropLone p items ≠ [a] := by
  intro h
  unfold dropLone at h
  split at h
  · split_ifs at h with hp
    rw [List.singleton_inj.mp h] at hp
    exact hp ha
  · rename_i hne
    exact hne a h

theorem map_dropLone (h : ∀ a, q (f a) = p a) (items : List α) :
    (dropLone p items).map f = dropLone q (items.map f) := by
  match items with
  | [] => rfl
  | [a] =>
    simp only [dropLone, List.map_cons, List.map_nil, h]
    split_ifs <;> rfl
  | _ :: _ :: _ => rfl

theorem flatTrees_eq_map (items : List Tree) : flatTrees items = items.map flatTree := by
  induction items with
  | nil => rfl
  | cons item rest ih => rw [flatTrees, ih, List.map_cons]

theorem flatEntry_eq_map (entry : Option Tree) : flatEntry entry = entry.map flatTree := by
  cases entry <;> rfl

instance (key : String) : Decidable (IsPlainKey key) :=
  List.decidableBAll (· ∉ ['\\', '.', '\x7b', '\x7d', '[', ']']) key.toList

/-- Members that are written with such keys only are an object with such keys. -/
theorem HasKeys.of_members {p : String → Prop} {members : Members} (hkeys : ∀ m ∈ members, p m.1)
    (hvalues : ∀ m ∈ members, HasKeys p (toTree m.2)) : HasKeys p (toTree (.object members)) := by
  rw [toTree]
  refine .object (fun key value h => ?_) (fun key value h => ?_)
  · obtain ⟨m, hm, rfl, -⟩ := exists_mem_of_toMap_eq_some h
    exact hkeys m hm
  · obtain ⟨m, hm, -, rfl⟩ := exists_mem_of_toMap_eq_some h
    exact hvalues m hm

/-! ### Flat written values -/

/-- Whether the written value is the empty text. -/
def isBlankValue : Json → Bool
  | .string s => s == ""
  | _ => false

mutual

/-- A written value with the flat tree of the given one. -/
def flatValue : Json → Json
  | .null => .null
  | .bool b => .string (compact (.bool b))
  | .number n => .string (compact (.number n))
  | .string s => .string s
  | .array items => .array (dropLone isBlankValue (flatItems items))
  | .object members => .object (flatMembers members)

/-- The flat forms of the written items. -/
def flatItems : List Json → List Json
  | [] => []
  | item :: rest => flatValue item :: flatItems rest

/-- The members with the flat forms of their values. -/
def flatMembers : List (String × Json) → List (String × Json)
  | [] => []
  | (key, value) :: rest => (key, flatValue value) :: flatMembers rest

end

theorem flatItems_eq_map (items : List Json) : flatItems items = items.map flatValue := by
  induction items with
  | nil => rfl
  | cons item rest ih => rw [flatItems, ih, List.map_cons]

theorem flatMembers_eq_map (members : Members) :
    flatMembers members = members.map fun m => (m.1, flatValue m.2) := by
  induction members with
  | nil => rfl
  | cons m rest ih => rw [flatMembers, ih, List.map_cons]

theorem isBlank_toTree (value : Json) : isBlank (toTree value) = isBlankValue value := by
  cases value <;> rfl

theorem toMap_flatMembers {members : Members}
    (h : ∀ m ∈ members, toTree (flatValue m.2) = flatTree (toTree m.2)) (key : String) :
    toMap (flatMembers members) key = flatEntry (toMap members key) := by
  induction members with
  | nil => rfl
  | cons m rest ih =>
    obtain ⟨hm, hrest⟩ := List.forall_mem_cons.mp h
    rw [flatMembers, toMap_cons, toMap_cons, ih hrest, hm, flatEntry_eq_map, flatEntry_eq_map,
      Option.map_or]
    split_ifs <;> rfl

theorem toTree_flatValue (value : Json) : toTree (flatValue value) = flatTree (toTree value) := by
  induction value with
  | null => rfl
  | bool b => rfl
  | number n => rfl
  | string s => rfl
  | array items ih =>
    rw [flatValue, toTree, toTree, flatTree, toTrees_eq_map, map_dropLone isBlank_toTree,
      flatItems_eq_map, toTrees_eq_map, flatTrees_eq_map, List.map_map, List.map_map]
    exact congrArg (fun items => Tree.array (dropLone isBlank items)) (List.map_congr_left ih)
  | object members ih =>
    rw [flatValue, toTree, toTree, flatTree]
    exact congrArg Tree.object (funext (toMap_flatMembers ih))

theorem isSorted_flatMembers {members : Members} (h : members.IsSorted) :
    Members.IsSorted (flatMembers members) := by
  rw [flatMembers_eq_map]
  exact List.pairwise_map.mpr h

theorem isCanonical_flatValue {value : Json} (h : IsCanonical value) :
    IsCanonical (flatValue value) := by
  induction h with
  | null => exact .null
  | bool b => exact .string _
  | number n => exact .string _
  | string s => exact .string s
  | array _ ih =>
    rw [flatValue, flatItems_eq_map]
    exact .array fun item hitem => List.forall_mem_map.mpr ih item (mem_of_mem_dropLone hitem)
  | object hsorted _ ih =>
    rw [flatValue]
    refine .object (isSorted_flatMembers hsorted) ?_
    rw [flatMembers_eq_map]
    exact List.forall_mem_map.mpr ih

end ScoreDeploy.Canonical
