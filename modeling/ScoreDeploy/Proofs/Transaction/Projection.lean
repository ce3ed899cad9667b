import ScoreDeploy.Proofs.HexNumeral
import ScoreDeploy.Proofs.Transaction.Parameters
import ScoreDeploy.Proofs.Transaction.Signature

/-!
# The wire form is a projection

Whatever is found in parameters by following keys and positions is found at the same place in their
wire form, where it stands for what it was. A wire form is left as it is when it is taken again, and
the canonical form can be written by one who gives up at numbers and booleans.
-/

namespace ScoreDeploy

open Json

/-! ### Places in a value -/

namespace Json

/-- One step into a value. -/
inductive Step where
  /-- To the item of an array at a position. -/
  | item (index : Nat)
  /-- To the value of a key in an object. -/
  | member (key : String)

/-- The value that a step leads to. -/
def step? : Json → Step → Option Json
  | .array items, .item index => items[index]?
  | .object members, .member key => Members.get? members key
  | _, _ => none

/-- The value at the end of a path. -/
def at? (value : Json) : List Step → Option Json
  | [] => some value
  | step :: path => (value.step? step).bind fun part => part.at? path

end Json

theorem Json.Members.get?_map (f : Json → Json) (members : Members) (key : String) :
    get? (members.map fun m => (m.1, f m.2)) key = (get? members key).map f := by
  induction members with
  | nil => rfl
  | cons m rest ih =>
    rw [List.map_cons, get?_cons, get?_cons, ih]
    split_ifs <;> rfl

/-! ### Integers as texts -/

/-- The text denotes the number in hexadecimal and in small letters, and no numeral for the number
is shorter. -/
structure HexNumeral.IsLeast (text : String) (n : Nat) : Prop where
  isNumeral : IsNumeral text n
  map_toLower : text.toList.map Char.toLower = text.toList
  length_le : ∀ other, IsNumeral other n → text.length ≤ other.length

theorem HexNumeral.isLeast_write (n : Nat) : IsLeast (write n) n where
  isNumeral := isNumeral_write n
  map_toLower := (isNumeral_write n).map_toLower_eq rfl
  length_le _ h := h.length_write_le

namespace Params

/-- The text is the least numeral for the integer, behind a minus sign if the integer is
negative. -/
def IsIntegerText (text : String) (n : Int) : Prop :=
  ∃ numeral, HexNumeral.IsLeast numeral n.natAbs ∧
    text = if n < 0 then "-" ++ numeral else numeral

theorem isIntegerText_integerText (n : Int) : IsIntegerText (integerText n) n :=
  ⟨HexNumeral.write n.natAbs, HexNumeral.isLeast_write n.natAbs, rfl⟩

/-- What comes to stand in the place of a value. Of items and members no more is said than how many
there are and which keys they have. -/
inductive StandsFor : Json → Json → Prop
  | null : StandsFor .null .null
  | string (s : String) : StandsFor (.string s) (.string s)
  | boolTrue : StandsFor (.bool true) (.string "0x1")
  | boolFalse : StandsFor (.bool false) (.string "0x0")
  | integer {n : Integer} {text : String} : IsIntegerText text n.toInt →
      StandsFor (.number (.integer n)) (.string text)
  | float (x : Binary64) : StandsFor (.number (.float x)) (.string x.text)
  | array {items others : List Json} : items.length = others.length →
      StandsFor (.array items) (.array others)
  | object {members others : Members} : members.map Prod.fst = others.map Prod.fst →
      StandsFor (.object members) (.object others)

theorem standsFor_wireValue (value : Json) : StandsFor value (wireValue value) := by
  cases value with
  | null => exact .null
  | bool b =>
    cases b with
    | true => exact .boolTrue
    | false => exact .boolFalse
  | number n =>
    cases n with
    | integer n => exact .integer (isIntegerText_integerText n.toInt)
    | float x => exact .float x
  | string s => exact .string s
  | array items =>
    rw [wireValue_array]
    exact .array (List.length_map wireValue).symm
  | object members =>
    rw [wireValue_object, wireForm_eq_map]
    refine .object ?_
    rw [List.map_map]
    rfl

/-! ### The same place before and after -/

theorem step?_wireValue (value : Json) (step : Step) :
    (wireValue value).step? step = (value.step? step).map wireValue := by
  cases value with
  | array items =>
    rw [wireValue_array]
    cases step with
    | item index => exact List.getElem?_map
    | member key => rfl
  | object members =>
    rw [wireValue_object, wireForm_eq_map]
    cases step with
    | item index => rfl
    | member key => exact Members.get?_map wireValue members key
  | _ => rfl

theorem at?_wireValue (value : Json) (path : List Step) :
    (wireValue value).at? path = (value.at? path).map wireValue := by
  induction path generalizing value with
  | nil => rfl
  | cons step path ih =>
    rw [at?, at?, step?_wireValue]
    cases value.step? step with
    | none => rfl
    | some part => exact ih part

theorem rel_at?_wireValue (value : Json) (path : List Step) :
    Option.Rel StandsFor (value.at? path) ((wireValue value).at? path) := by
  rw [at?_wireValue]
  cases value.at? path with
  | none => exact .none
  | some part => exact .some (standsFor_wireValue part)

/-! ### Taking the wire form again -/

theorem IsWire.wireValue_eq {value : Json} (h : IsWire value) : wireValue value = value := by
  induction h with
  | null => rfl
  | string s => rfl
  | array _ ih =>
    rw [wireValue_array, List.map_congr_left ih, List.map_id']
  | @object members _ ih =>
    have hsame : ∀ m ∈ members, (m.1, wireValue m.2) = m := fun m hm => Prod.ext rfl (ih m hm)
    rw [wireValue_object, wireForm_eq_map, List.map_congr_left hsame, List.map_id']

theorem isWire_wireForm (params : Params) : IsWire (.object (wireForm params)) := by
  rw [← wireValue_object]
  exact isWire_wireValue _

theorem wireForm_wireForm (params : Params) : wireForm (wireForm params) = wireForm params := by
  apply Json.object.inj
  rw [← wireValue_object]
  exact (isWire_wireForm params).wireValue_eq

/-- The order of the members does not count. -/
theorem IsWire.canonical {value : Json} (h : IsWire value) : IsWire value.canonical := by
  rw [← h.wireValue_eq, ← wireValue_canonical]
  exact isWire_wireValue value.canonical

end Params

/-! ### Writing without numbers and booleans -/

namespace Canonical

open Params (IsWire)

mutual

/-- Appends a value, or gives up at a number or a boolean. -/
def pushWire? (out : String) : Json → Option String
  | .null => some (out ++ "\\0")
  | .bool _ => none
  | .number _ => none
  | .string s => some (pushEscaped out s.toList)
  | .array items => do return (← pushWireItems? (out.push '[') true items).push ']'
  | .object members => do return (← pushWireMembers? (out.push '\x7b') true members).push '\x7d'

/-- Appends items with points between them. -/
def pushWireItems? (out : String) (first : Bool) : List Json → Option String
  | [] => some out
  | item :: rest => do pushWireItems? (← pushWire? (pushPoint out first) item) false rest

/-- Appends keys and values with points between them. -/
def pushWireMembers? (out : String) (first : Bool) : List (String × Json) → Option String
  | [] => some out
  | (key, value) :: rest => do
    pushWireMembers? (← pushWire? ((pushPoint out first ++ key).push '.') value) false rest

end

/-- The canonical form of a transaction that holds neither numbers nor booleans. -/
def wireText? (params : Params) : Option String :=
  pushWireMembers? start false (Members.without omitted (canonicalMembers [] params))

variable {value : Json} {items : List Json} {members : Members} {params : Params}

/-- Writing the value never fails, and what it appends is the text of the value. -/
def AppendsWire (value : Json) : Prop :=
  ∀ out, pushWire? out value = some (pushValue out value)

theorem pushWireItems?_eq (h : ∀ item ∈ items, AppendsWire item) (out : String) (first : Bool) :
    pushWireItems? out first items = some (pushItems out first items) := by
  induction items generalizing out first with
  | nil => rfl
  | cons item rest ih =>
    obtain ⟨hitem, hrest⟩ := List.forall_mem_cons.mp h
    rw [pushWireItems?, hitem, pushItems, ← ih hrest]
    rfl

theorem pushWireMembers?_eq (h : ∀ m ∈ members, AppendsWire m.2) (out : String) (first : Bool) :
    pushWireMembers? out first members = some (pushMembers out first members) := by
  induction members generalizing out first with
  | nil => rfl
  | cons m rest ih =>
    obtain ⟨hm, hrest⟩ := List.forall_mem_cons.mp h
    rw [pushWireMembers?, hm, pushMembers, ← ih hrest]
    rfl

theorem appendsWire_of_isWire (h : IsWire value) : AppendsWire value := by
  induction h with
  | null => exact fun out => rfl
  | string s => exact fun out => rfl
  | array _ ih =>
    intro out
    rw [pushWire?, pushWireItems?_eq ih, pushValue]
    rfl
  | object _ ih =>
    intro out
    rw [pushWire?, pushWireMembers?_eq ih, pushValue]
    rfl

theorem isWire_of_mem_of_pushWireItems? {text : String}
    (hitems : ∀ item ∈ items, ∀ out text, pushWire? out item = some text → IsWire item)
    {out : String} {first : Bool} (h : pushWireItems? out first items = some text) :
    ∀ item ∈ items, IsWire item := by
  induction items generalizing out first with
  | nil => exact List.forall_mem_nil _
  | cons item rest ih =>
    obtain ⟨hitem, hrest⟩ := List.forall_mem_cons.mp hitems
    rw [pushWireItems?] at h
    obtain ⟨next, hnext, htext⟩ := Option.bind_eq_some_iff.mp h
    exact List.forall_mem_cons.mpr ⟨hitem _ next hnext, ih hrest htext⟩

theorem isWire_of_mem_of_pushWireMembers? {text : String}
    (hmembers : ∀ m ∈ members, ∀ out text, pushWire? out m.2 = some text → IsWire m.2)
    {out : String} {first : Bool} (h : pushWireMembers? out first members = some text) :
    ∀ m ∈ members, IsWire m.2 := by
  induction members generalizing out first with
  | nil => exact List.forall_mem_nil _
  | cons m rest ih =>
    obtain ⟨hm, hrest⟩ := List.forall_mem_cons.mp hmembers
    rw [pushWireMembers?] at h
    obtain ⟨next, hnext, htext⟩ := Option.bind_eq_some_iff.mp h
    exact List.forall_mem_cons.mpr ⟨hm _ next hnext, ih hrest htext⟩

/-- At every number and at every boolean it gives up. -/
theorem isWire_of_pushWire? {out text : String} (h : pushWire? out value = some text) :
    IsWire value := by
  induction value generalizing out text with
  | null => exact .null
  | bool b => cases h
  | number n => cases h
  | string s => exact .string s
  | array items ih =>
    rw [pushWire?] at h
    obtain ⟨inner, hinner, -⟩ := Option.bind_eq_some_iff.mp h
    exact .array (isWire_of_mem_of_pushWireItems? (fun item hi _ _ => ih item hi) hinner)
  | object members ih =>
    rw [pushWire?] at h
    obtain ⟨inner, hinner, -⟩ := Option.bind_eq_some_iff.mp h
    exact .object (isWire_of_mem_of_pushWireMembers? (fun m hm _ _ => ih m hm) hinner)

/-- The canonical form is written without giving up exactly if no member that is listed holds a
number or a boolean. -/
theorem wireText?_eq_some_iff {form : String} :
    wireText? params = some form ↔ (∀ m ∈ listed params, IsWire m.2) ∧ text params = form := by
  constructor
  · intro h
    have hwire : ∀ m ∈ listed params, IsWire m.2 :=
      isWire_of_mem_of_pushWireMembers? (fun m _ _ _ => isWire_of_pushWire?) h
    have hform := pushWireMembers?_eq (fun m hm => appendsWire_of_isWire (hwire m hm)) start false
    exact ⟨hwire, Option.some.inj (hform.symm.trans h)⟩
  · rintro ⟨hwire, rfl⟩
    exact pushWireMembers?_eq (fun m hm => appendsWire_of_isWire (hwire m hm)) start false

theorem wireText?_eq_text (h : IsWire (.object params)) :
    wireText? params = some (text params) := by
  cases h with
  | object hmembers =>
    refine wireText?_eq_some_iff.mpr ⟨fun m hm => ?_, rfl⟩
    exact forall_mem_canonicalMembers (List.forall_mem_nil _)
      (fun n hn => (hmembers n hn).canonical) m (List.mem_of_mem_filter hm)

end Canonical

/-! ### What is built from wire forms -/

open Params

theorem Payload.isWire_paramsMember (params : Option Params) :
    ∀ m ∈ paramsMember (params.map wireForm), IsWire m.2 := by
  cases params with
  | none => exact List.forall_mem_nil _
  | some params => exact List.forall_mem_singleton.mpr (isWire_wireForm params)

theorem Payload.isWire_data_ofCall (method : String) (params : Option Params) :
    IsWire (.object (ofCall method params).data) :=
  .object (List.forall_mem_cons.mpr ⟨.string method, isWire_paramsMember params⟩)

theorem Payload.isWire_data_ofDeploy (contentType : String) (content : Bytes)
    (params : Option Params) : IsWire (.object (ofDeploy contentType content params).data) := by
  refine .object (List.forall_mem_cons.mpr ⟨.string _, ?_⟩)
  exact List.forall_mem_cons.mpr ⟨.string contentType, isWire_paramsMember params⟩

theorem Transaction.isWire_params {tx : Transaction}
    (h : ∀ payload, tx.payload = some payload → IsWire (.object payload.data))
    (limit : Option UInt64) : IsWire (.object (tx.params limit)) := by
  refine .object fun m hm => ?_
  rcases mem_params hm with ⟨-, text, htext⟩ | ⟨payload, hpayload, rfl⟩
  · rw [htext]
    exact .string text
  · exact h payload hpayload

/-- The wire form is a projection that keeps the shape. At every path there is something before if
and only if there is something after, and what is there stands for what was: a text for a number or
a boolean, texts and nulls themselves, as many items, the same keys. No number and no boolean is
left, so that taking the wire form again changes nothing, and the canonical form is written without
meeting one, for the parameters themselves and for every transaction that carries them. -/
theorem Params.wireForm_projects (params : Params) :
    (∀ path, Option.Rel StandsFor (Json.at? (.object params) path)
      (Json.at? (.object (wireForm params)) path)) ∧
    IsWire (.object (wireForm params)) ∧
    wireForm (wireForm params) = wireForm params ∧
    Canonical.wireText? (wireForm params) = some (Canonical.text (wireForm params)) ∧
    (∀ (tx : Transaction) (limit : Option UInt64) (method : String),
      Canonical.wireText? ({ tx with payload := some (.ofCall method params) }.params limit) =
        some (Canonical.text ({ tx with payload := some (.ofCall method params) }.params limit))) ∧
    ∀ (tx : Transaction) (limit : Option UInt64) (contentType : String) (content : Bytes),
      Canonical.wireText?
          ({ tx with payload := some (.ofDeploy contentType content params) }.params limit) =
        some (Canonical.text
          ({ tx with payload := some (.ofDeploy contentType content params) }.params limit)) := by
  refine ⟨fun path => ?_, isWire_wireForm params, wireForm_wireForm params,
    Canonical.wireText?_eq_text (isWire_wireForm params), ?_, ?_⟩
  · rw [← wireValue_object]
    exact rel_at?_wireValue (.object params) path
  · intro tx limit method
    refine Canonical.wireText?_eq_text (Transaction.isWire_params ?_ limit)
    rintro _ ⟨⟩
    exact Payload.isWire_data_ofCall method params
  · intro tx limit contentType content
    refine Canonical.wireText?_eq_text (Transaction.isWire_params ?_ limit)
    rintro _ ⟨⟩
    exact Payload.isWire_data_ofDeploy contentType content params

/-- The least and the greatest integer, at depth. -/
example : wireForm [("bounds", .array [.number (.integer ⟨-0x8000000000000000, by decide⟩),
      .number (.integer ⟨0xffffffffffffffff, by decide⟩), .object [("open", .bool false)]])] =
    [("bounds", .array [.string "-0x8000000000000000", .string "0xffffffffffffffff",
      .object [("open", .string "0x0")]])] := by
  rfl

end ScoreDeploy
