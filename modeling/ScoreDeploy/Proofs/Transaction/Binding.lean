import ScoreDeploy.Proofs.Transaction.Parameters
import ScoreDeploy.Proofs.Transaction.Signature

/-!
# What a canonical form binds

Transactions are built from texts and from parameters in wire form, so that no number and no boolean
is taken for its text. What is left undecided by a canonical form is whether an array holds nothing
or nothing but the empty text. A key is not escaped: one with a point in it stands for several keys
and values, and one that starts with a closing brace can end an object too early.
-/

namespace ScoreDeploy

open Json

namespace Canonical

/-! ### Arrays with a lone empty text -/

mutual

/-- The tree with the empty array in the place of each array that holds only the empty text. -/
def clearLone : Tree → Tree
  | .array items => .array (dropLone isBlank (clearLones items))
  | .object map => .object fun key => clearEntry (map key)
  | value => value

/-- The items, each of them cleared. -/
def clearLones : List Tree → List Tree
  | [] => []
  | item :: rest => clearLone item :: clearLones rest

/-- The cleared value of a key. -/
def clearEntry : Option Tree → Option Tree
  | none => none
  | some value => some (clearLone value)

end

theorem clearLones_eq_map (items : List Tree) : clearLones items = items.map clearLone := by
  induction items with
  | nil => rfl
  | cons item rest ih => rw [clearLones, ih, List.map_cons]

theorem flatEntry_eq_clearEntry {members : Members}
    (h : ∀ m ∈ members, flatTree (toTree m.2) = clearLone (toTree m.2)) (key : String) :
    flatEntry (toMap members key) = clearEntry (toMap members key) := by
  cases hvalue : toMap members key with
  | none => rfl
  | some value =>
    obtain ⟨m, hm, -, rfl⟩ := exists_mem_of_toMap_eq_some hvalue
    exact congrArg some (h m hm)

/-- Where there are no numbers and booleans, nothing else is forgotten. -/
theorem flatTree_eq_clearLone {value : Json} (h : Params.IsWire value) :
    flatTree (toTree value) = clearLone (toTree value) := by
  induction h with
  | null => rfl
  | string s => rfl
  | @array items _ ih =>
    rw [toTree, flatTree, clearLone, toTrees_eq_map, flatTrees_eq_map, clearLones_eq_map,
      List.map_map, List.map_map]
    exact congrArg (fun items => Tree.array (dropLone isBlank items)) (List.map_congr_left ih)
  | object _ ih =>
    rw [toTree, flatTree, clearLone]
    exact congrArg Tree.object (funext (flatEntry_eq_clearEntry ih))

/-! ### Keys of wire forms -/

variable {p : String → Prop}

theorem HasKeys.wireValue {value : Json} (h : HasKeys p (toTree value)) :
    HasKeys p (toTree (Params.wireValue value)) := by
  induction value with
  | null => exact .null
  | bool b => exact .string _
  | number n => exact .string _
  | string s => exact .string s
  | array items ih =>
    rw [toTree, toTrees_eq_map] at h
    rw [Params.wireValue_array, toTree, toTrees_eq_map, List.map_map]
    cases h with
    | array hitems =>
      exact .array (List.forall_mem_map.mpr fun item hitem =>
        ih item hitem (hitems _ (List.mem_map_of_mem hitem)))
  | object members ih =>
    rw [toTree] at h
    rw [Params.wireValue_object, toTree]
    cases h with
    | object hkeys hvalues =>
      have hwire : ∀ key value, toMap (Params.wireForm members) key = some value →
          p key ∧ HasKeys p value := by
        intro key value hvalue
        rcases Params.toMap_wireForm_cases members key with
          ⟨-, hafter⟩ | ⟨m, hm, -, hbefore, hafter⟩
        · rw [hafter] at hvalue
          cases hvalue
        · obtain rfl := Option.some.inj (hafter.symm.trans hvalue)
          exact ⟨hkeys key _ hbefore, ih m hm (hvalues key _ hbefore)⟩
      exact .object (fun key value hvalue => (hwire key value hvalue).1)
        fun key value hvalue => (hwire key value hvalue).2

end Canonical

open Canonical

/-! ### Payloads -/

/-- A payload as calls and deployments are built, from parameters with keys that can be cut off. -/
inductive Payload.IsCut : Payload → Prop
  | call (method : String) {params : Option Params} :
      (∀ given, params = some given → HasKeys IsCutKey (toTree (.object given))) →
      IsCut (.ofCall method params)
  | deploy (contentType : String) (content : Bytes) {params : Option Params} :
      (∀ given, params = some given → HasKeys IsCutKey (toTree (.object given))) →
      IsCut (.ofDeploy contentType content params)

/-- The member is bound by a canonical form: its keys can be cut off, and it is in wire form. -/
structure IsBound (m : String × Json) : Prop where
  key : IsCutKey m.1
  keys : HasKeys IsCutKey (toTree m.2)
  wire : Params.IsWire m.2

theorem isCutKey_name : ∀ key ∈ ["version", "from", "to", "timestamp", "nid", "stepLimit", "value",
    "nonce", "dataType", "data", "method", "params", "content", "contentType"], IsCutKey key := by
  decide

theorem isBound_text {key : String} (hkey : IsCutKey key) (text : String) :
    IsBound (key, .string text) :=
  ⟨hkey, .string text, .string text⟩

namespace Payload

variable {params : Option Params} {m : String × Json}

theorem isBound_of_mem_paramsMember
    (h : ∀ given, params = some given → HasKeys IsCutKey (toTree (.object given)))
    (hm : m ∈ paramsMember (params.map Params.wireForm)) : IsBound m := by
  cases params with
  | none => exact absurd hm List.not_mem_nil
  | some given =>
    obtain rfl := List.mem_singleton.mp hm
    have hwire : Params.wireValue (.object given) = .object (Params.wireForm given) :=
      Params.wireValue_object given
    constructor
    · exact isCutKey_name _ (by simp)
    · rw [← hwire]
      exact (h given rfl).wireValue
    · rw [← hwire]
      exact Params.isWire_wireValue (.object given)

theorem IsCut.isBound {payload : Payload} (h : payload.IsCut) (hm : m ∈ payload.data) :
    IsBound m := by
  cases h with
  | call method hparams =>
    rcases List.mem_cons.mp hm with rfl | hm
    · exact isBound_text (isCutKey_name _ (by simp)) _
    · exact isBound_of_mem_paramsMember hparams hm
  | deploy contentType content hparams =>
    rcases List.mem_cons.mp hm with rfl | hm
    · exact isBound_text (isCutKey_name _ (by simp)) _
    rcases List.mem_cons.mp hm with rfl | hm
    · exact isBound_text (isCutKey_name _ (by simp)) _
    · exact isBound_of_mem_paramsMember hparams hm

end Payload

/-! ### Transactions -/

namespace Transaction

variable {tx : Transaction} {limit : Option UInt64}

theorem isBound_of_mem_params (h : ∀ payload, tx.payload = some payload → payload.IsCut)
    {m : String × Json} (hm : m ∈ tx.params limit) : IsBound m := by
  rcases mem_params hm with ⟨hkey, text, htext⟩ | ⟨payload, hpayload, rfl⟩
  · have hcut : IsCutKey m.1 := isCutKey_name m.1 (by
      simp only [List.mem_cons, List.not_mem_nil, or_false] at hkey ⊢
      tauto)
    obtain ⟨key, value⟩ := m
    obtain rfl : value = .string text := htext
    exact isBound_text hcut text
  · have hdata := fun n hn => (h payload hpayload).isBound (m := n) hn
    constructor
    · exact isCutKey_name _ (by simp)
    · exact .of_members (fun n hn => (hdata n hn).key) fun n hn => (hdata n hn).keys
    · exact .object fun n hn => (hdata n hn).wire

theorem hasKeys_params (h : ∀ payload, tx.payload = some payload → payload.IsCut) :
    HasKeys IsCutKey (toTree (.object (tx.params limit))) :=
  .of_members (fun _ hm => (isBound_of_mem_params h hm).key) fun _ hm =>
    (isBound_of_mem_params h hm).keys

/-- Of a transaction nothing is forgotten but lone empty texts. -/
theorem flat_params (h : ∀ payload, tx.payload = some payload → payload.IsCut) :
    Tree.object (flat (toMap (tx.params limit))) =
      clearLone (toTree (.object (tx.params limit))) := by
  rw [toTree, clearLone]
  refine congrArg Tree.object (funext fun key => ?_)
  have hentry := flatEntry_eq_clearEntry (fun m (hm : m ∈ tx.params limit) =>
    flatTree_eq_clearLone (isBound_of_mem_params h hm).wire) key
  rw [flat]
  split_ifs with hkey
  · have habsent : toMap (tx.params limit) key = none := by
      refine toMap_eq_none fun m hm heq => key_not_mem_omitted hm ?_
      rw [heq]
      simpa [omitted] using hkey
    rw [habsent]
    rfl
  · exact hentry

/-- Two transactions have one canonical form if and only if their params are the same objects once
lone empty texts are cleared away. -/
theorem text_params_eq_iff {tx₁ tx₂ : Transaction}
    (h₁ : ∀ payload, tx₁.payload = some payload → payload.IsCut)
    (h₂ : ∀ payload, tx₂.payload = some payload → payload.IsCut) (limit₁ limit₂ : UInt64) :
    text (tx₁.params (some limit₁)) = text (tx₂.params (some limit₂)) ↔
      clearLone (toTree (.object (tx₁.params (some limit₁)))) =
        clearLone (toTree (.object (tx₂.params (some limit₂)))) := by
  rw [← flat_params h₁, ← flat_params h₂, Tree.object.injEq, ← flatMembers_listed_inj]
  constructor
  · exact flatMembers_listed_eq_of_text_eq (hasKeys_params h₁) (hasKeys_params h₂)
  · intro h
    rw [text_eq_text_iff_pointed]
    exact congrArg (pointed memberChars) h

/-- A call with these parameters. -/
def calling (params : Params) : Transaction :=
  { empty "hx1" "cx1" 3 7 with payload := some (.ofCall "transfer" (some params)) }

theorem isCut_calling {params : Params} (h : HasKeys IsCutKey (toTree (.object params))) :
    ∀ payload, (calling params).payload = some payload → payload.IsCut := by
  intro payload hpayload
  obtain rfl := Option.some.inj hpayload
  refine .call "transfer" fun given hgiven => ?_
  obtain rfl := Option.some.inj hgiven
  exact h

/-- A number and its numeral make one call, whatever the order. -/
theorem text_params_eq_iff_numeral :
    text ((calling [("to", .array [.string ""]), ("amount", ofWord 16)]).params (some 5)) =
        text ((calling [("amount", .string "0x10"), ("to", .array [])]).params (some 5)) ∧
      clearLone (toTree (.object
          ((calling [("to", .array [.string ""]), ("amount", ofWord 16)]).params (some 5)))) =
        clearLone (toTree (.object
          ((calling [("amount", .string "0x10"), ("to", .array [])]).params (some 5)))) := by
  have htext :
      text ((calling [("to", .array [.string ""]), ("amount", ofWord 16)]).params (some 5)) =
        text ((calling [("amount", .string "0x10"), ("to", .array [])]).params (some 5)) := by
    decide +kernel
  refine ⟨htext, (text_params_eq_iff (isCut_calling ?_) (isCut_calling ?_) 5 5).mp htext⟩
  · refine .of_members (by decide) ?_
    simp only [List.forall_mem_cons]
    exact ⟨.array (List.forall_mem_singleton.mpr (.string "")), .number _, List.forall_mem_nil _⟩
  · refine .of_members (by decide) ?_
    simp only [List.forall_mem_cons]
    exact ⟨.string "0x10", .array (List.forall_mem_nil _), List.forall_mem_nil _⟩

/-- Members that end where an object with a closing brace for a key goes on. -/
def unnested : Params :=
  [("a", .object []), ("b", .string "~x"), ("v\x7d", .string "c"), ("\x7bk", .string "u")]

/-- What goes on there, with the given members behind it. -/
def nested (rest : Params) : Params :=
  [("a", .object [("\x7d", .string "b"), ("~x", .string "v")]),
    ("c", .object (("k", .string "u") :: rest))]

/-- Calls with these parameters have one canonical text, though they do not ask for the same. -/
def AreConfused (params params' : Params) : Prop :=
  text ((calling params).params (some 5)) = text ((calling params').params (some 5)) ∧
    toTree (.object ((calling params).params (some 5))) ≠
      toTree (.object ((calling params').params (some 5)))

/-- Trees cannot be told apart by running, but the texts of canonical values can. -/
theorem areConfused_of_compact_ne {params params' : Params}
    (htext : text ((calling params).params (some 5)) = text ((calling params').params (some 5)))
    (hdiffer : compact (canonical (.object ((calling params).params (some 5)))) ≠
      compact (canonical (.object ((calling params').params (some 5))))) :
    AreConfused params params' :=
  ⟨htext, fun heq => hdiffer (congrArg compact (canonical_eq_canonical_iff.mpr heq))⟩

/-- A point in a key, closing braces in front of keys, and a lone empty text imitate the structure
around them. -/
theorem text_params_imitations :
    AreConfused [("a.b.c", .string "d")] [("a", .string "b"), ("c", .string "d")] ∧
      AreConfused (nested [("~", .object unnested)]) (unnested ++ [("~", .object (nested []))]) ∧
      AreConfused [("a", .array [.string ""])] [("a", .array [])] := by
  refine ⟨areConfused_of_compact_ne ?_ ?_, areConfused_of_compact_ne ?_ ?_,
    areConfused_of_compact_ne ?_ ?_⟩
  all_goals decide +kernel

end Transaction

end ScoreDeploy
