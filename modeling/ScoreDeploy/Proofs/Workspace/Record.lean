import ScoreDeploy.Proofs.FileSystem.Effect

/-!
# Keeping records

The record of a package on a network has a place of its own, and so has its draft. While a record is
saved, the old one stays as it was until the complete new one takes its place, and nothing else
changes but the draft and the directories on the way.
-/

namespace ScoreDeploy.Workspace

open ScoreDeploy.Path

variable (ws : Workspace) (current : Place) (package network : String)

/-! ### Places -/

/-- The place of the directory of a package on a network. -/
def networkPlace : Place :=
  (((placeFrom ws.configuration current).child "deploy").child package).child network

/-- The place of a record. -/
def recordPlace : Place :=
  (ws.networkPlace current package network).child "deploy.json"

/-- The place of the draft of a record. -/
def draftPlace : Place :=
  (ws.networkPlace current package network).child "deploy.json.tmp"

variable {ws current package network} {package' network' : String}

theorem placeFrom_networkPath (hpackage : IsName package) (hnetwork : IsName network) :
    placeFrom (ws.networkPath package network) current =
      ws.networkPlace current package network := by
  rw [networkPath, packagePath, placeFrom_join hnetwork, placeFrom_join hpackage,
    placeFrom_join (by decide), networkPlace]

theorem placeFrom_recordPath (hpackage : IsName package) (hnetwork : IsName network) :
    placeFrom (ws.recordPath package network) current =
      ws.recordPlace current package network := by
  rw [recordPath, placeFrom_join (by decide), placeFrom_networkPath hpackage hnetwork, recordPlace]

theorem placeFrom_draftPath (hpackage : IsName package) (hnetwork : IsName network) :
    placeFrom (ws.draftPath package network) current = ws.draftPlace current package network := by
  rw [draftPath, placeFrom_join (by decide), placeFrom_networkPath hpackage hnetwork, draftPlace]

theorem parent?_recordPath (hnetwork : IsName network) :
    parent? (ws.recordPath package network) = some (ws.networkPath package network) :=
  parent?_join (by decide) hnetwork

theorem draftPlace_ne_recordPlace :
    ws.draftPlace current package network ≠ ws.recordPlace current package' network' := by
  rw [draftPlace, recordPlace, Ne, Place.child_inj]
  rintro ⟨-, hname⟩
  exact absurd hname (by decide)

/-- Different packages and networks have different records. -/
theorem recordPlace_inj :
    ws.recordPlace current package network = ws.recordPlace current package' network' ↔
      package = package' ∧ network = network' := by
  simp [recordPlace, networkPlace]

variable {receipt : Receipt} {fs fs' : FileSystem} {calls : List ScoreDeploy.Call}

variable (ws package network) in
/-- The bytes of the file that the path of a record leads to, if there is one. -/
def recordBytes? (fs : FileSystem) : Option Bytes :=
  fs.content? (placeFrom (ws.recordPath package network) fs.current)

theorem recordBytes?_eq (hpackage : IsName package) (hnetwork : IsName network) :
    ws.recordBytes? package network fs =
      fs.content? (ws.recordPlace fs.current package network) := by
  rw [recordBytes?, placeFrom_recordPath hpackage hnetwork]

/-! ### Saving -/

/-- A record is saved in three steps. -/
theorem saveRecord_eq (hnetwork : IsName network) :
    ws.saveRecord package network receipt = (do
      let made ← Action.host (.makeDirectories (ws.networkPath package network))
      orIo (ws.networkPath package network) made
      let written ← Action.host
        (.write (ws.draftPath package network) (Bytes.ofText receipt.toJson.pretty))
      orIo (ws.draftPath package network) written
      let renamed ← Action.host
        (.rename (ws.draftPath package network) (ws.recordPath package network))
      orIo (ws.recordPath package network) renamed
      return ws.recordPath package network) := by
  dsimp only [saveRecord]
  rw [parent?_recordPath hnetwork]

variable (ws package network) in
/-- The record is as it was; the draft may be anything, and directories on the way may be new. -/
def Drafts (fs fs' : FileSystem) : Prop :=
  fs.Changes (· = ws.draftPlace fs.current package network)
    (LeadsThrough (ws.networkPath package network) fs.current) fs'

variable (ws package network) in
/-- The record is that of the receipt and the draft is gone; directories on the way may be new. -/
structure Records (receipt : Receipt) (fs fs' : FileSystem) : Prop where
  changes : fs.Changes (fun p => p = ws.draftPlace fs.current package network ∨
    p = ws.recordPlace fs.current package network)
    (LeadsThrough (ws.networkPath package network) fs.current) fs'
  record_eq : fs'.content? (ws.recordPlace fs.current package network) =
    some (Bytes.ofText receipt.toJson.pretty)
  draft_eq : fs'.entry? (ws.draftPlace fs.current package network) = none

theorem orIo_ok_bind {α : Type} (path : Path) (f : Unit → Action Error α) :
    (orIo path (.ok ()) >>= f) = f () :=
  rfl

/-- After an operation has failed nothing else happens. -/
theorem of_orIo_error_bind {α σ : Type} {rule : MachineRule σ} {s t : σ} {path : Path} {e : IoError}
    {f : Unit → Action Error α} {q : Program effects (Except Error α)}
    (h : Reaches rule (orIo path (.error e) >>= f).run s calls q t) :
    q = .done (.error (.io path e)) ∧ calls = [] ∧ t = s :=
  Reaches.of_done h

theorem Drafts.recordBytes?_eq (h : ws.Drafts package network fs fs') (hpackage' : IsName package')
    (hnetwork' : IsName network') :
    ws.recordBytes? package' network' fs' = ws.recordBytes? package' network' fs := by
  rw [Workspace.recordBytes?_eq hpackage' hnetwork', Workspace.recordBytes?_eq hpackage' hnetwork',
    h.current_eq]
  exact h.content?_eq draftPlace_ne_recordPlace.symm

/-- The records of other packages and networks are not touched. -/
theorem Records.recordBytes?_eq (h : ws.Records package network receipt fs fs')
    (hpackage' : IsName package') (hnetwork' : IsName network')
    (hne : ¬(package' = package ∧ network' = network)) :
    ws.recordBytes? package' network' fs' = ws.recordBytes? package' network' fs := by
  rw [Workspace.recordBytes?_eq hpackage' hnetwork', Workspace.recordBytes?_eq hpackage' hnetwork',
    h.changes.current_eq]
  refine h.changes.content?_eq ?_
  rintro (heq | heq)
  · exact draftPlace_ne_recordPlace heq.symm
  · exact hne (recordPlace_inj.mp heq)

theorem Records.recordBytes?_eq_some (h : ws.Records package network receipt fs fs')
    (hpackage : IsName package) (hnetwork : IsName network) :
    ws.recordBytes? package network fs' = some (Bytes.ofText receipt.toJson.pretty) := by
  rw [Workspace.recordBytes?_eq hpackage hnetwork, h.changes.current_eq, h.record_eq]

/-- At every point the record is as it was, or the whole new one after the last step. -/
theorem drafts_or_records_of_saveRecord (hpackage : IsName package) (hnetwork : IsName network)
    (htree : fs.IsTree) {q : Program effects (Except Error Path)}
    (h : Reaches FileSystem.rule (ws.saveRecord package network receipt).run fs calls q fs') :
    fs'.IsTree ∧ (ws.Drafts package network fs fs' ∧ (∀ path, q ≠ .done (.ok path)) ∨
      ws.Records package network receipt fs fs' ∧ ∃ path, q = .done (.ok path)) := by
  rw [saveRecord_eq hnetwork] at h
  -- The directories are made.
  rcases Action.reaches_host_bind h with ⟨rfl, -, rfl⟩ | ⟨made, fs₁, hmake, h₁⟩
  · exact ⟨htree, .inl ⟨.refl _ _ _, fun _ hq => nomatch hq⟩⟩
  obtain ⟨hdrafts₁, htree₁⟩ := (FileSystem.makesSome_of_rule hmake).changes
    (· = ws.draftPlace fs.current package network)
  have hcurrent₁ : fs₁.current = fs.current := hdrafts₁.current_eq
  cases made with
  | error e =>
    obtain ⟨rfl, -, rfl⟩ := of_orIo_error_bind h₁
    exact ⟨htree₁ htree, .inl ⟨hdrafts₁, fun _ hq => nomatch hq⟩⟩
  | ok _ =>
  -- The draft is written.
  rw [orIo_ok_bind] at h₁
  rcases Action.reaches_host_bind h₁ with ⟨rfl, -, rfl⟩ | ⟨written, fs₂, hwrite, h₂⟩
  · exact ⟨htree₁ htree, .inl ⟨hdrafts₁, fun _ hq => nomatch hq⟩⟩
  obtain ⟨htree₂, hdraft₂, hcontent⟩ := (htree₁ htree).changes_of_rule_write hwrite
  rw [placeFrom_draftPath hpackage hnetwork, hcurrent₁] at hdraft₂ hcontent
  have hdrafts₂ : ws.Drafts package network fs fs₂ := hdrafts₁.trans hdraft₂
  have hcurrent₂ : fs₂.current = fs.current := hdrafts₂.current_eq
  cases written with
  | error e =>
    obtain ⟨rfl, -, rfl⟩ := of_orIo_error_bind h₂
    exact ⟨htree₂, .inl ⟨hdrafts₂, fun _ hq => nomatch hq⟩⟩
  | ok _ =>
  -- The draft takes the place of the record.
  rw [orIo_ok_bind] at h₂
  rcases Action.reaches_host_bind h₂ with ⟨rfl, -, rfl⟩ | ⟨renamed, fs₃, hrename, h₃⟩
  · exact ⟨htree₂, .inl ⟨hdrafts₂, fun _ hq => nomatch hq⟩⟩
  cases renamed with
  | error e =>
    obtain rfl : fs₃ = fs₂ := hrename
    obtain ⟨rfl, -, rfl⟩ := of_orIo_error_bind h₃
    exact ⟨htree₂, .inl ⟨hdrafts₂, fun _ hq => nomatch hq⟩⟩
  | ok _ =>
  rw [orIo_ok_bind] at h₃
  obtain ⟨rfl, -, rfl⟩ := Reaches.of_done h₃
  have hne : placeFrom (ws.draftPath package network) fs₂.current ≠
      placeFrom (ws.recordPath package network) fs₂.current := by
    rw [placeFrom_draftPath hpackage hnetwork, placeFrom_recordPath hpackage hnetwork]
    exact draftPlace_ne_recordPlace
  obtain ⟨htree₃, hchanges₃, hrecord, hgone⟩ := htree₂.changes_rename hrename hne
  rw [placeFrom_draftPath hpackage hnetwork, placeFrom_recordPath hpackage hnetwork,
    hcurrent₂] at hchanges₃ hrecord
  rw [placeFrom_draftPath hpackage hnetwork, hcurrent₂] at hgone
  refine ⟨htree₃, .inr ⟨⟨?_, hrecord.trans (hcontent rfl), hgone⟩, _, rfl⟩⟩
  exact (hdrafts₂.mono (fun _ => .inl) fun _ => id).trans hchanges₃

end ScoreDeploy.Workspace
