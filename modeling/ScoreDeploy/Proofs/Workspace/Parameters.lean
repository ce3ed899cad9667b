import ScoreDeploy.Proofs.Json.DocumentShape
import ScoreDeploy.Proofs.Workspace.Reading

/-!
# Parameters in workspaces

The file of a deployment holds parameters and nothing else; the file of a call has them as one of
its members, or as the second item of an array, and the money that is to be sent along as another.
What a command takes from either file is what the document in it says.
-/

namespace ScoreDeploy

namespace Json

namespace Document

/-- The parameters in the file of a call; null if there are none. -/
def callParams (doc : Document) : Document :=
  ((doc.labelled ["method", "params", "value"]).lookup "params").getD .null

/-- The money in the file of a call; null if there is none. -/
def callMoney (doc : Document) : Document :=
  ((doc.labelled ["method", "params", "value"]).lookup "value").getD .null

/-- The parameters that a contract receives; none for null. -/
def sent? : Document → Option Json
  | null => none
  | doc => some doc.wire.canonical

theorem sent?_eq_some {doc : Document} {members : Members}
    (h : doc.wire.canonical = Params.wireValue (.object members)) :
    doc.sent? = some (.object (Params.wireForm members)) := by
  rw [Params.wireValue_object] at h
  rw [← h]
  cases doc with
  | null => cases h
  | _ => rfl

theorem sent?_of_wire_eq_null {doc : Document} (hintegral : doc.IsIntegral)
    (h : doc.wire.canonical = .null) : doc.sent? = none := by
  cases hintegral with
  | null => rfl
  | bool b => cases h
  | integer negative k => cases h
  | text s => cases h
  | @array items =>
    rw [wire, canonical] at h
    cases h
  | object =>
    rw [wire, canonical] at h
    cases h

end Document

end Json

namespace Workspace

open Json

variable {ws : Workspace} {package network name : String} {text : String} {doc : Document}
variable {params : Params} {path : Path} {fs fs' : FileSystem} {calls : List ScoreDeploy.Call}

/-- The file that the path leads to holds a text of the document. -/
def Says (fs : FileSystem) (path : Path) (doc : Document) : Prop :=
  ∃ bytes text, fs.read path = .ok bytes ∧ Bytes.toText? bytes = some text ∧
    IsTextOf text.toList doc

/-- What a file tells is read from a text of what it says. -/
theorem Says.exists_text {α : Type} {read : String → Except Json.Fault α} {a : α}
    (hfile : Says fs path doc) (htells : Tells fs read path a) :
    ∃ text, IsTextOf text.toList doc ∧ read text = .ok a := by
  obtain ⟨bytes, text, hbytes, htext, hdoc⟩ := hfile
  obtain ⟨bytes', text', hbytes', htext', hread⟩ := htells
  obtain rfl := Except.ok.inj (hbytes.symm.trans hbytes')
  obtain rfl := Option.some.inj (htext.symm.trans htext')
  exact ⟨text, hdoc, hread⟩

/-- The parameters of a deployment are those that the text says. -/
theorem sent?_of_readParams (htext : IsTextOf text.toList doc) (hintegral : doc.IsIntegral)
    (h : readParams text = .ok params) :
    doc.sent? = some (.object (Params.wireForm params)) := by
  obtain ⟨value, hvalue, hparams⟩ := Except.bind_eq_ok_iff.mp h
  obtain ⟨fuel, rest, hread⟩ := exists_readValue_of_readAs hvalue
  obtain ⟨-, ⟨members, rfl⟩, hwire, -⟩ := Shape.IsPlain.gives Shape.isPlain_members htext
    endsNumber_nil hread
  obtain rfl := Except.ok.inj hparams
  exact Document.sent?_eq_some (hwire hintegral).symm

namespace Call

/-- In the file of a call the parameters are null or an object, and the money is null or a text. -/
structure Form (name : String) (value : Json) : Prop where
  params : name = "params" → value = .null ∨ ∃ members, value = .object members
  money : name = "value" → value = .null ∨ ∃ s, value = .string s

theorem arePlain_shape : ∃ fields, shape = .record fields ∧ Shape.ArePlain Form fields ∧
    Shape.names fields = ["method", "params", "value"] := by
  refine ⟨_, rfl, ?_, rfl⟩
  intro f hf
  simp only [List.mem_cons, List.not_mem_nil, or_false] at hf
  rcases hf with rfl | rfl | rfl
  · exact ⟨rfl, Shape.isPlain_text.imp fun _ _ =>
      ⟨fun h => absurd h (by decide), fun h => absurd h (by decide)⟩⟩
  · exact ⟨rfl, Shape.IsPlain.imp (Shape.IsPlain.optional Shape.isPlain_members) fun _ hvalue =>
      ⟨fun _ => hvalue, fun h => absurd h (by decide)⟩⟩
  · exact ⟨rfl, Shape.IsPlain.imp (Shape.IsPlain.optional Shape.isPlain_text) fun _ hvalue =>
      ⟨fun h => absurd h (by decide), fun _ => hvalue⟩⟩

theorem eq_of_parts? {value : Json} {method : String} {params : Option Params}
    {valueText : Option String} (h : parts? value = some (method, params, valueText)) :
    params = membersOf (value.member? "params") ∧
      valueText = (value.member? "value").bind Json.string? := by
  simp only [parts?, Option.bind_eq_bind, Option.bind_eq_some_iff] at h
  obtain ⟨_, -, _, -, hparts⟩ := h
  obtain ⟨-, hrest⟩ := Prod.mk.inj (Option.some.inj hparts)
  obtain ⟨rfl, rfl⟩ := Prod.mk.inj hrest
  exact ⟨rfl, rfl⟩

variable {method : String} {valueText : Option String} {callParams : Option Params} {file : Json}
variable {amount : Loop}

theorem exists_file_of_readParts (h : readParts text = .ok (method, callParams, valueText)) :
    ∃ file, readAs shape text = .ok file ∧ callParams = membersOf (file.member? "params") ∧
      valueText = (file.member? "value").bind Json.string? := by
  obtain ⟨file, hfile, hparts⟩ := Except.bind_eq_ok_iff.mp h
  refine ⟨file, hfile, ?_⟩
  split at hparts
  · next parts hsome =>
    obtain rfl := Except.ok.inj hparts
    exact eq_of_parts? hsome
  · cases hparts

/-- What is read from the file of a call is found under the names of its parts. -/
theorem areFound_of_readAs (htext : IsTextOf text.toList doc) (h : readAs shape text = .ok file) :
    ∃ found, file = .object found ∧
      AreFound Form ["method", "params", "value"] (doc.labelled ["method", "params", "value"])
        found := by
  obtain ⟨fuel, rest, hread⟩ := exists_readValue_of_readAs h
  obtain ⟨fields, hshape, hfields, hnames⟩ := arePlain_shape
  rw [hshape] at hread
  obtain ⟨-, found, rfl, hfound⟩ := htext.recordsAs hfields endsNumber_nil hread
  rw [hnames] at hfound
  exact ⟨found, rfl, hfound⟩

/-- The parameters of a call are those that the text says. -/
theorem sent?_of_readParts (htext : IsTextOf text.toList doc)
    (hintegral : doc.callParams.IsIntegral)
    (h : readParts text = .ok (method, callParams, valueText)) :
    doc.callParams.sent? = callParams.map fun params => .object (Params.wireForm params) := by
  obtain ⟨file, hfile, hparams, -⟩ := exists_file_of_readParts h
  obtain ⟨found, rfl, hfound⟩ := areFound_of_readAs htext hfile
  -- From here on only the two things found under the name matter.
  have hrel := hfound "params" (by decide)
  rw [Document.callParams] at hintegral ⊢
  rw [hparams, Json.member?]
  revert hrel hintegral
  generalize (doc.labelled ["method", "params", "value"]).lookup "params" = part
  generalize Members.get? found "params" = member
  intro hintegral hrel
  cases hrel with
  | none => rfl
  | some hgives =>
    obtain ⟨hform, hwire, -⟩ := hgives
    have hwire := hwire hintegral
    rcases hform.params rfl with rfl | ⟨members, rfl⟩
    · exact Document.sent?_of_wire_eq_null hintegral hwire.symm
    · exact Document.sent?_eq_some hwire.symm

/-! ### Money -/

/-- The file of a call asks for that much money: for none if it holds null or nothing for it, and
otherwise for what its text is read as. -/
def AsksFor (file : Json) (amount : Loop) : Prop :=
  (file.member? "value" = none ∨ file.member? "value" = some .null) ∧ amount = .zero ∨
    ∃ text, file.member? "value" = some (.string text) ∧ HexNumeral.read text = .ok amount

theorem money_of_readAs (h : readAs shape text = .ok file) :
    file.member? "value" = none ∨ file.member? "value" = some .null ∨
      ∃ s, file.member? "value" = some (.string s) := by
  obtain ⟨fields, hshape, hfields, -⟩ := arePlain_shape
  rw [hshape] at h
  obtain ⟨members, rfl, hforms⟩ := Shape.forms_of_readAs hfields h
  cases hmember : (Json.object members).member? "value" with
  | none => exact .inl rfl
  | some value =>
    rcases (hforms _ (Members.mem_of_get?_eq_some hmember)).money rfl with rfl | ⟨s, rfl⟩
    · exact .inr (.inl rfl)
    · exact .inr (.inr ⟨s, rfl⟩)

/-- The check reads what a file asks for. -/
theorem asksFor_iff (h : readAs shape text = .ok file) :
    AsksFor file amount ↔ readValue ((file.member? "value").bind Json.string?) = .ok amount := by
  rw [AsksFor]
  rcases money_of_readAs h with hmember | hmember | ⟨s, hmember⟩
  · simp [hmember, readValue, eq_comm]
  · simp [hmember, readValue, Json.string?, eq_comm]
  · simp [hmember, readValue, Json.string?]

/-- A file asks for no money where its text says null or nothing, and otherwise says a text. -/
theorem AsksFor.callMoney (h : AsksFor file amount) (htext : IsTextOf text.toList doc)
    (hfile : readAs shape text = .ok file) :
    doc.callMoney = .null ∧ amount = .zero ∨
      ∃ text, doc.callMoney = .text text ∧ HexNumeral.read text = .ok amount := by
  obtain ⟨found, rfl, hfound⟩ := areFound_of_readAs htext hfile
  have hrel := hfound "value" (by decide)
  rw [AsksFor, Json.member?] at h
  rw [Document.callMoney]
  revert hrel h
  generalize (doc.labelled ["method", "params", "value"]).lookup "value" = part
  generalize Members.get? found "value" = member
  intro h hrel
  cases hrel with
  | none =>
    rcases h with ⟨-, hzero⟩ | ⟨_, hnone, -⟩
    · exact .inl ⟨rfl, hzero⟩
    · cases hnone
  | some hgives =>
    obtain ⟨-, -, hunderlies⟩ := hgives
    rcases h with ⟨hnone | hnull, hzero⟩ | ⟨s, hs, hread⟩
    · cases hnone
    · obtain rfl := Option.some.inj hnull
      exact .inl ⟨hunderlies, hzero⟩
    · obtain rfl := Option.some.inj hs
      exact .inr ⟨s, hunderlies, hread⟩

/-- What the check reads is what the accessor gives; its zero in place of an error is not met. -/
theorem value_eq_of_readValue {call : Call} {quantity : Loop}
    (h : readValue call.valueText = .ok quantity) : call.value = quantity := by
  rw [value]
  cases htext : call.valueText with
  | none =>
    rw [htext] at h
    exact Except.ok.inj h
  | some text =>
    rw [htext, readValue] at h
    rw [Option.bind_some, h]
    rfl

end Call

theorem yields_call_ok {call : Call} :
    (ws.call package network name).Yields FileSystem.rule fs calls (.ok call) fs' ↔
      Tells fs Call.readParts (ws.callPath package network name)
          (call.method, call.params, call.valueText) ∧
        Call.readValue call.valueText = .ok call.value ∧ calls = [] ∧ fs' = fs := by
  rw [Workspace.call]
  constructor
  · intro h
    rcases Action.yields_bind.mp h with ⟨_, -, he⟩ | ⟨⟨method, params, valueText⟩, _, _, _, hparts,
      hrest, rfl⟩
    · cases he
    obtain ⟨htells, rfl, rfl⟩ := yields_readWith_ok.mp hparts
    rcases Action.yields_bind.mp hrest with ⟨_, -, he⟩ | ⟨value, _, _, _, hvalue, hcall, rfl⟩
    · cases he
    obtain ⟨rfl, hread, rfl⟩ := Action.yields_orFail.mp hvalue
    obtain ⟨rfl, hok, rfl⟩ := Action.yields_pure.mp hcall
    obtain rfl := Except.ok.inj hok
    have hread := Except.mapError_eq_ok_iff.mp hread.symm
    refine ⟨htells, ?_, rfl, rfl⟩
    rwa [Call.value_eq_of_readValue hread]
  · rintro ⟨htells, hvalue, rfl, rfl⟩
    refine Action.yields_bind.mpr
      (.inr ⟨(call.method, call.params, call.valueText), [], fs', [], ?_, ?_, rfl⟩)
    · exact yields_readWith_ok.mpr ⟨htells, rfl, rfl⟩
    · refine Action.yields_bind.mpr (.inr ⟨call.value, [], fs', [], ?_, .refl _ _, rfl⟩)
      exact Action.yields_orFail.mpr ⟨rfl, by rw [hvalue]; rfl, rfl⟩

end Workspace

end ScoreDeploy
