import ScoreDeploy.Proofs.Receipt
import ScoreDeploy.Proofs.Workspace.Record

/-!
# Reading workspaces

A file tells a value if its bytes are a text that a reader takes for that value. What a command
learns from a workspace is what the files tell: machines may fail to read a file, but what they read
is there.
-/

namespace ScoreDeploy

/-- The text of its UTF-8 form is the text itself. -/
theorem Bytes.toText?_ofText (s : String) : Bytes.toText? (Bytes.ofText s) = some s := by
  have hvalid : s.toUTF8.IsValidUTF8 := s.isValidUTF8
  rw [Bytes.toText?, Bytes.ofText, Array.toArray_toList]
  exact dif_pos hvalid

namespace Workspace

section

variable {α : Type} {read : String → Except Json.Fault α} {path : Path} {a : α}
variable {ws : Workspace} {package network address : String} {content : Bytes} {params : Params}
variable {fs fs' : FileSystem} {calls : List ScoreDeploy.Call} {text : String}

/-- The file that the path leads to holds a text that the reader takes for that value. -/
def Tells (fs : FileSystem) (read : String → Except Json.Fault α) (path : Path) (a : α) : Prop :=
  ∃ bytes text, fs.read path = .ok bytes ∧ Bytes.toText? bytes = some text ∧ read text = .ok a

theorem Tells.unique {b : α} (ha : Tells fs read path a) (hb : Tells fs read path b) : a = b := by
  obtain ⟨bytes, text, hread, htext, ha⟩ := ha
  obtain ⟨_, _, hread', htext', hb⟩ := hb
  obtain rfl := Except.ok.inj (hread.symm.trans hread')
  obtain rfl := Option.some.inj (htext.symm.trans htext')
  exact Except.ok.inj (ha.symm.trans hb)

theorem yields_readText_ok :
    (readText path).Yields FileSystem.rule fs calls (.ok text) fs' ↔
      ∃ bytes, fs.read path = .ok bytes ∧ Bytes.toText? bytes = some text ∧ calls = [] ∧
        fs' = fs := by
  rw [readText]
  constructor
  · intro h
    obtain ⟨answer, m, hread, hrest⟩ := Action.yields_host_bind.mp h
    cases answer with
    | error e =>
      exfalso
      cases e <;> exact nomatch (Action.yields_throw.mp hrest).2.1
    | ok bytes =>
      obtain ⟨rfl, hread⟩ := hread
      dsimp only at hrest
      cases htext : Bytes.toText? bytes with
      | none =>
        rw [htext] at hrest
        exact nomatch (Action.yields_throw.mp hrest).2.1
      | some text' =>
        rw [htext] at hrest
        obtain ⟨rfl, htext', rfl⟩ := Action.yields_pure.mp hrest
        obtain rfl := Except.ok.inj htext'
        exact ⟨bytes, hread, htext, rfl, rfl⟩
  · rintro ⟨bytes, hread, htext, rfl, rfl⟩
    refine Action.yields_host_bind.mpr ⟨.ok bytes, fs', ⟨rfl, hread⟩, ?_⟩
    simp only [htext]
    exact .refl _ _

theorem yields_readWith_ok :
    (readWith read path).Yields FileSystem.rule fs calls (.ok a) fs' ↔
      Tells fs read path a ∧ calls = [] ∧ fs' = fs := by
  rw [readWith]
  constructor
  · intro h
    rcases Action.yields_bind.mp h with ⟨_, -, he⟩ | ⟨text, _, _, _, hyields, hread, rfl⟩
    · cases he
    · obtain ⟨bytes, hbytes, htext, rfl, rfl⟩ := yields_readText_ok.mp hyields
      obtain ⟨rfl, ha, rfl⟩ := Action.yields_orFail.mp hread
      have hvalue := Except.mapError_eq_ok_iff.mp ha.symm
      exact ⟨⟨bytes, text, hbytes, htext, hvalue⟩, rfl, rfl⟩
  · rintro ⟨⟨bytes, text, hbytes, htext, hread⟩, rfl, rfl⟩
    refine Action.yields_bind.mpr (.inr ⟨text, [], fs', [], ?_, ?_, rfl⟩)
    · exact yields_readText_ok.mpr ⟨bytes, hbytes, htext, rfl, rfl⟩
    · exact Action.yields_orFail.mpr ⟨rfl, by rw [hread]; rfl, rfl⟩

theorem yields_params_ok :
    (ws.params package network).Yields FileSystem.rule fs calls (.ok params) fs' ↔
      Tells fs readParams (ws.paramsPath package network) params ∧ calls = [] ∧ fs' = fs :=
  yields_readWith_ok

/-- The compiled file lies where the description of the build says. -/
theorem yields_artifact_ok :
    (ws.artifact package).Yields FileSystem.rule fs calls (.ok (path, content)) fs' ↔
      ∃ build, Tells fs Build.read (ws.buildPath package) build ∧ path = ws.artifactPath build ∧
        fs.read path = .ok content ∧ calls = [] ∧ fs' = fs := by
  rw [artifact]
  constructor
  · intro h
    rcases Action.yields_bind.mp h with ⟨_, -, he⟩ | ⟨build, _, _, _, hyields, hrest, rfl⟩
    · cases he
    obtain ⟨hbuild, rfl, rfl⟩ := yields_readWith_ok.mp hyields
    obtain ⟨answer, m, hread, hanswer⟩ := Action.yields_host_bind.mp hrest
    cases answer with
    | error e =>
      exfalso
      cases e <;> exact nomatch (Action.yields_throw.mp hanswer).2.1
    | ok bytes =>
      obtain ⟨rfl, hread⟩ := hread
      obtain ⟨rfl, hok, rfl⟩ := Action.yields_pure.mp hanswer
      obtain ⟨rfl, rfl⟩ := Prod.mk.inj (Except.ok.inj hok)
      exact ⟨build, hbuild, rfl, hread, rfl, rfl⟩
  · rintro ⟨build, hbuild, rfl, hread, rfl, rfl⟩
    refine Action.yields_bind.mpr (.inr ⟨build, [], fs', [], ?_, ?_, rfl⟩)
    · exact yields_readWith_ok.mpr ⟨hbuild, rfl, rfl⟩
    · exact Action.yields_host_bind.mpr ⟨.ok content, fs', ⟨rfl, hread⟩, .refl _ _⟩

/-! ### Recorded addresses -/

/-- The address in the record of a package on a network, if there is a record that can be read and
that tells one. -/
def recordedAddress? (ws : Workspace) (package network : String) (fs : FileSystem) :
    Option String := do
  let text ← Bytes.toText? (← ws.recordBytes? package network fs)
  let receipt ← (Receipt.read text).toOption
  receipt.contract

/-- Equal bytes tell the same address. -/
theorem recordedAddress?_congr
    (h : ws.recordBytes? package network fs' = ws.recordBytes? package network fs) :
    ws.recordedAddress? package network fs' = ws.recordedAddress? package network fs := by
  rw [recordedAddress?, recordedAddress?, h]

theorem recordedAddress?_of_tells {receipt : Receipt}
    (h : Tells fs Receipt.read (ws.recordPath package network) receipt) :
    ws.recordedAddress? package network fs = receipt.contract := by
  obtain ⟨bytes, text, hread, htext, hreceipt⟩ := h
  have hbytes : ws.recordBytes? package network fs = some bytes := FileSystem.read_eq_ok hread
  simp only [recordedAddress?, hbytes, htext, hreceipt, Option.bind_eq_bind, Option.bind_some]
  rfl

/-- The record of a receipt that can be written tells the address in the receipt. -/
theorem recordedAddress?_of_recordBytes? {receipt : Receipt} (h : receipt.IsWritable)
    (hbytes : ws.recordBytes? package network fs = some (Bytes.ofText receipt.toJson.pretty)) :
    ws.recordedAddress? package network fs = receipt.contract := by
  simp only [recordedAddress?, hbytes, Bytes.toText?_ofText, h.read_pretty, Option.bind_eq_bind,
    Option.bind_some]
  rfl

theorem yields_address_ok :
    (ws.address package network).Yields FileSystem.rule fs calls (.ok address) fs' ↔
      ∃ receipt, Tells fs Receipt.read (ws.recordPath package network) receipt ∧
        receipt.contract = some address ∧ calls = [] ∧ fs' = fs := by
  rw [Workspace.address]
  constructor
  · intro h
    rcases Action.yields_bind.mp h with ⟨_, -, he⟩ | ⟨receipt, _, _, _, hrecord, hrest, rfl⟩
    · cases he
    obtain ⟨htells, rfl, rfl⟩ := yields_readWith_ok.mp (Action.yields_mapError_ok.mp hrecord)
    cases hcontract : receipt.contract with
    | none =>
      rw [hcontract] at hrest
      exact nomatch (Action.yields_throw.mp hrest).2.1
    | some address' =>
      rw [hcontract] at hrest
      obtain ⟨rfl, hok, rfl⟩ := Action.yields_pure.mp hrest
      obtain rfl := Except.ok.inj hok
      exact ⟨receipt, htells, hcontract, rfl, rfl⟩
  · rintro ⟨receipt, htells, hcontract, rfl, rfl⟩
    refine Action.yields_bind.mpr (.inr ⟨receipt, [], fs', [], ?_, ?_, rfl⟩)
    · exact Action.yields_mapError_ok.mpr (yields_readWith_ok.mpr ⟨htells, rfl, rfl⟩)
    · simp only [hcontract]
      exact .refl _ _

/-- An address that a command learns is the recorded one. -/
theorem recordedAddress?_of_yields
    (h : (ws.address package network).Yields FileSystem.rule fs calls (.ok address) fs') :
    ws.recordedAddress? package network fs = some address ∧ calls = [] ∧ fs' = fs := by
  obtain ⟨receipt, htells, hcontract, hcalls, hfs⟩ := yields_address_ok.mp h
  exact ⟨(recordedAddress?_of_tells htells).trans hcontract, hcalls, hfs⟩

end

end Workspace

end ScoreDeploy
