import ScoreDeploy.Proofs.Command.Requests
import ScoreDeploy.Proofs.Workspace.Reading

/-!
# When records change

A deployment or an update keeps its record only after the node has confirmed the transaction and
told the address of the contract, and then in one step. Wherever a run is broken off, the record is
the one before or the complete new one; all other records stay as they are.
-/

namespace ScoreDeploy.Context

open Submission ScoreDeploy.Path FileSystem

/-- Among the calls, the last ones submit a transaction, and it is confirmed by that receipt. -/
def HasConfirmed (terms : Terms) (receipt : Receipt) (calls : List Call) : Prop :=
  ∃ before confirmed, calls = before ++ confirmed ∧ IsConfirmed terms receipt confirmed

section

variable {σ α : Type} {rule : MachineRule σ} {s t : σ} {ctx : Context} {prepare : Step Prepared}
variable {calls : List Call}

/-- At every point the files are as they were, or there is a receipt to finish with. -/
theorem reaches_submitting {given : Option UInt64} {finish : String → Receipt → Step α}
    {q : Program effects (Except Failure α)} (hrule : rule.KeepsLooking)
    (hlooks : prepare.AsksOnly Effect.Looks)
    (hlimit : prepare.Ensures fun p => p.operation.limit ctx.terms.limits = given)
    (hfinish : ∀ hash receipt, (finish hash receipt).AsksOnly Effect.IsHost)
    (h : Reaches rule (ctx.submitting prepare finish).run s calls q t) :
    (t = s ∧ ∀ a, q ≠ .done (.ok a)) ∨ ∃ hash receipt, HasConfirmed ctx.terms receipt calls ∧
      Reaches rule (finish hash receipt).run s [] q t := by
  rcases Action.reaches_bind h with ⟨p', hp', -, hq⟩ | ⟨e, he, rfl⟩ |
    ⟨⟨hash, receipt⟩, calls₁, m, calls₂, hok, hrest, rfl⟩
  · exact .inl ⟨(keeps_confirmed _ hlooks).state_eq hrule hp', fun _ => hq _⟩
  · exact .inl ⟨(keeps_confirmed _ hlooks).state_eq hrule he, fun _ hq => nomatch hq⟩
  · obtain rfl := (keeps_confirmed _ hlooks).state_eq hrule hok
    obtain ⟨rfl, -⟩ := (hfinish hash receipt).calls_eq hrest
    obtain ⟨-, hconfirmed⟩ := isLimited_of_confirmed hlooks hlimit hok
    obtain ⟨before, confirmed, rfl, -, hconfirmed⟩ := hconfirmed _ rfl
    exact .inr ⟨hash, receipt, ⟨before, confirmed, List.append_nil _, hconfirmed⟩, hrest⟩

end

variable {ctx : Context} {package : String} {receipt : Receipt} {fs fs' : FileSystem}
variable {calls : List Call}

/-- Only with an address a receipt is kept. -/
theorem drafts_or_records_of_keepRecord (hpackage : IsName package) (hnetwork : IsName ctx.network)
    (htree : fs.IsTree) {q : Program effects (Except Failure String)}
    (h : Reaches FileSystem.rule (ctx.keepRecord package receipt).run fs calls q fs') :
    fs'.IsTree ∧ (ctx.workspace.Drafts package ctx.network fs fs' ∧ (∀ a, q ≠ .done (.ok a)) ∨
      ∃ address, receipt.contract = some address ∧
        ctx.workspace.Records package ctx.network receipt fs fs' ∧
        ∀ r, q = .done r → r = .ok address) := by
  rw [keepRecord] at h
  cases hcontract : receipt.contract with
  | none =>
    rw [hcontract] at h
    obtain ⟨rfl, -, rfl⟩ := Reaches.of_done h
    refine ⟨htree, .inl ⟨.refl _ _ _, ?_⟩⟩
    rintro a ⟨⟩
  | some address =>
    rw [hcontract] at h
    rcases Action.reaches_bind h with ⟨p', hp', hnotDone, hq⟩ | ⟨e, he, rfl⟩ |
      ⟨path, _, m, _, hsave, hprint, -⟩
    · obtain ⟨p'', hp'', rfl⟩ := Action.reaches_mapError hp'
      obtain ⟨htree', ⟨hdrafts, -⟩ | ⟨-, path, rfl⟩⟩ :=
        Workspace.drafts_or_records_of_saveRecord hpackage hnetwork htree hp''
      · exact ⟨htree', .inl ⟨hdrafts, fun _ => hq _⟩⟩
      · exact absurd rfl (hnotDone _)
    · obtain ⟨cause, he, -⟩ := Action.yields_mapError_error.mp he
      obtain ⟨htree', ⟨hdrafts, -⟩ | ⟨-, path, hpath⟩⟩ :=
        Workspace.drafts_or_records_of_saveRecord hpackage hnetwork htree he
      · refine ⟨htree', .inl ⟨hdrafts, ?_⟩⟩
        rintro a ⟨⟩
      · cases hpath
    · obtain ⟨htree', ⟨-, hpath⟩ | ⟨hrecords, -⟩⟩ :=
        Workspace.drafts_or_records_of_saveRecord hpackage hnetwork htree
          (Action.yields_mapError_ok.mp hsave)
      · exact absurd rfl (hpath path)
      · have hlooks : (do
            Action.print (package ++ ": " ++ address)
            Action.print ("Record: " ++ path)
            return address : Step String).AsksOnly Effect.Looks :=
          .bind (.host trivial) fun _ => .bind (.host trivial) fun _ => .pure _
        obtain rfl := hlooks.keeps.state_eq keepsLooking_rule hprint
        refine ⟨htree', .inr ⟨address, rfl, hrecords, ?_⟩⟩
        rintro r rfl
        obtain ⟨_, _, -, hprint⟩ := Action.yields_host_bind.mp hprint
        obtain ⟨_, _, -, hprint⟩ := Action.yields_host_bind.mp hprint
        exact (Action.yields_pure.mp hprint).2.1

/-- At every point of a deployment or an update the record is as it was, or it is the whole new one
of a confirmed transaction. -/
theorem drafts_or_records {limit : Option UInt64} {action : Step String}
    (haction : action = ctx.deploy package limit ∨ action = ctx.update package limit)
    (hpackage : IsName package) (hnetwork : IsName ctx.network) (htree : fs.IsTree)
    {q : Program effects (Except Failure String)}
    (h : Reaches FileSystem.rule action.run fs calls q fs') :
    fs'.IsTree ∧ (ctx.workspace.Drafts package ctx.network fs fs' ∧ (∀ a, q ≠ .done (.ok a)) ∨
      ∃ receipt address, HasConfirmed ctx.terms receipt calls ∧ receipt.contract = some address ∧
        ctx.workspace.Records package ctx.network receipt fs fs' ∧
        ∀ r, q = .done r → r = .ok address) := by
  have hsubmitting : (fs' = fs ∧ ∀ a, q ≠ .done (.ok a)) ∨ ∃ receipt,
      HasConfirmed ctx.terms receipt calls ∧
        Reaches FileSystem.rule (ctx.keepRecord package receipt).run fs [] q fs' := by
    rcases haction with rfl | rfl
    · rw [deploy_eq] at h
      exact (reaches_submitting keepsLooking_rule (looks_prepareDeploy _ _ _)
        (ensures_limit_prepareDeploy _ _ _ _) (fun _ => isHost_keepRecord _ _) h).imp_right
          fun ⟨_, hreceipt⟩ => hreceipt
    · rw [update_eq] at h
      exact (reaches_submitting keepsLooking_rule (looks_prepareUpdate _ _ _)
        (ensures_limit_prepareUpdate _ _ _ _) (fun _ => isHost_keepRecord _ _) h).imp_right
          fun ⟨_, hreceipt⟩ => hreceipt
  rcases hsubmitting with ⟨rfl, hq⟩ | ⟨receipt, hconfirmed, hkeep⟩
  · exact ⟨htree, .inl ⟨.refl _ _ _, hq⟩⟩
  · obtain ⟨htree', hpoint⟩ := drafts_or_records_of_keepRecord hpackage hnetwork htree hkeep
    refine ⟨htree', hpoint.imp_right ?_⟩
    rintro ⟨address, hcontract, hrecords, hq⟩
    exact ⟨receipt, address, hconfirmed, hcontract, hrecords, hq⟩

/-! ### A deployment in a small workspace -/

section

set_option maxRecDepth 20000

/-- The place below the root with these names on the way. -/
def placeOf (names : List String) : Place := ⟨names.length, names.reverse, by simp⟩

/-- The files of a workspace with a package that was built. -/
def workbench : FileSystem where
  entries :=
    [(placeOf ["config"], .directory), (placeOf ["config", "deploy"], .directory),
      (placeOf ["config", "deploy", "j"], .directory),
      (placeOf ["config", "deploy", "j", "build.json"],
        .file (Bytes.ofText "\x7b\"javaPkg\":\"j\",\"build\":\"b\"\x7d")),
      (placeOf ["config", "deploy", "j", "local"], .directory),
      (placeOf ["config", "deploy", "j", "local", "params.json"], .file (Bytes.ofText "\x7b\x7d")),
      (placeOf ["j"], .directory), (placeOf ["j", "build"], .directory),
      (placeOf ["j", "build", "libs"], .directory),
      (placeOf ["j", "build", "libs", "j-b.jar"], .file [0xca, 0xfe])]
  current := .root

theorem isTree_workbench : workbench.IsTree := by
  have hall : ∀ e ∈ workbench.entries, workbench.entry? e.1.parent = some .directory := by
    decide +kernel
  exact isTree_of_forall_mem hall

/-- The receipt of the contract that lands. -/
def landing : Receipt := ⟨Receipt.success, some "cx01", none, []⟩

/-- The files when the draft of its record is written. -/
def drafted : FileSystem :=
  workbench.put (scribbling.workspace.draftPlace .root "j" "local")
    (.file (Bytes.ofText landing.toJson.pretty))

/-- The files when its record is kept. -/
def recorded : FileSystem :=
  (drafted.removeAt (scribbling.workspace.draftPlace .root "j" "local")).put
    (scribbling.workspace.recordPlace .root "j" "local")
    (.file (Bytes.ofText landing.toJson.pretty))

/-- The node takes a transaction. -/
def taken (signed : SignedTransaction) : Call :=
  ⟨"http://node", .send signed, .ok (.object [("result", .string "0xab")])⟩

/-- The node says where the code landed. -/
def landedCode : Call :=
  ⟨"http://node", .outcome "0xab", .ok (.object [("result",
    .object [("scoreAddress", .string "cx01"), ("status", .string "0x1")])])⟩

/-- The files of the package are those of the workbench. -/
structure HasPackage (fs : FileSystem) : Prop where
  build_eq : fs.read (scribbling.workspace.buildPath "j") =
    .ok (Bytes.ofText "\x7b\"javaPkg\":\"j\",\"build\":\"b\"\x7d")
  code_eq : fs.read (scribbling.workspace.artifactPath ⟨"j", none, "b"⟩) = .ok [0xca, 0xfe]
  params_eq : fs.read (scribbling.workspace.paramsPath "j" "local") = .ok (Bytes.ofText "\x7b\x7d")

theorem hasPackage_workbench : HasPackage workbench := by
  constructor <;> decide +kernel

theorem HasPackage.yields_artifact {fs : FileSystem} (h : HasPackage fs) :
    (onWorkspace (scribbling.workspace.artifact "j")).Yields FileSystem.rule fs []
      (.ok (scribbling.workspace.artifactPath ⟨"j", none, "b"⟩, [0xca, 0xfe])) fs := by
  have hbuild : Workspace.Tells fs Workspace.Build.read (scribbling.workspace.buildPath "j")
      ⟨"j", none, "b"⟩ := ⟨_, _, h.build_eq, Bytes.toText?_ofText _, rfl⟩
  exact Action.yields_mapError_ok.mpr
    (Workspace.yields_artifact_ok.mpr ⟨_, hbuild, rfl, h.code_eq, rfl, rfl⟩)

theorem HasPackage.yields_params {fs : FileSystem} (h : HasPackage fs) :
    (onWorkspace (scribbling.workspace.params "j" "local")).Yields FileSystem.rule fs [] (.ok [])
      fs := by
  have hparams : Workspace.Tells fs Workspace.readParams
      (scribbling.workspace.paramsPath "j" "local") [] :=
    ⟨_, _, h.params_eq, Bytes.toText?_ofText _, rfl⟩
  exact Action.yields_mapError_ok.mpr (Workspace.yields_params_ok.mpr ⟨hparams, rfl, rfl⟩)

theorem yields_prepareDeploy :
    (scribbling.prepareDeploy "j" (some 5)).Yields FileSystem.rule workbench []
      (.ok ⟨Operation.scribble, .install contentType [0xca, 0xfe] (some []) (some 5)⟩)
      workbench := by
  have hsigner : scribbling.requireSigner.Yields FileSystem.rule workbench []
      (.ok Operation.scribble) workbench := .refl _ _
  refine hsigner.bind_silent ?_
  refine hasPackage_workbench.yields_artifact.bind_silent ?_
  refine hasPackage_workbench.yields_params.bind_silent ?_
  exact Action.yields_log_bind mayIdle_rule.mayLog (.refl _ _)

theorem yields_keepRecord :
    (scribbling.keepRecord "j" landing).Yields FileSystem.rule workbench [] (.ok "cx01")
      recorded := by
  have hmake : workbench.makeDirectories (scribbling.workspace.networkPath "j" "local") =
      (.ok (), workbench) := by rfl
  have hwrite : workbench.write (scribbling.workspace.draftPath "j" "local")
      (Bytes.ofText landing.toJson.pretty) = .ok drafted := by rfl
  have hrename : drafted.rename (scribbling.workspace.draftPath "j" "local")
      (scribbling.workspace.recordPath "j" "local") = .ok recorded := by rfl
  have hsave : (scribbling.workspace.saveRecord "j" "local" landing).Yields FileSystem.rule
      workbench [] (.ok (scribbling.workspace.recordPath "j" "local")) recorded := by
    rw [Workspace.saveRecord_eq (by decide)]
    refine Action.yields_host_bind.mpr ⟨(.ok () : Except IoError Unit), workbench, hmake, ?_⟩
    refine Action.yields_host_bind.mpr ⟨(.ok () : Except IoError Unit), drafted, hwrite, ?_⟩
    exact Action.yields_host_bind.mpr ⟨(.ok () : Except IoError Unit), recorded, hrename,
      .refl _ _⟩
  refine (Action.yields_mapError_ok.mpr hsave).bind_silent ?_
  exact Action.yields_host_bind.mpr ⟨(), recorded, rfl, Action.yields_host_bind.mpr
    ⟨(), recorded, rfl, .refl _ _⟩⟩

theorem yields_deploy_workbench : ∃ signed, (scribbling.deploy "j" (some 5)).Yields FileSystem.rule
    workbench [taken signed, landedCode] (.ok "cx01") recorded := by
  let tx : Transaction := Operation.transaction
    (.install contentType [0xca, 0xfe] (some []) (some 5)) Operation.scribble.address 3 7
  obtain ⟨signed, hsigned⟩ : ∃ signed, tx.sign? 5 Operation.scribble = some signed := ⟨_, rfl⟩
  have hsubmits : Submits scribbling.terms tx Operation.scribble (some 5) [taken signed]
      (.ok "0xab") :=
    .limited (.given 5) (.accepted hsigned ⟨_, rfl, rfl⟩)
  have hperform : (Operation.perform scribbling.terms Operation.scribble (.install contentType
      [0xca, 0xfe] (some []) (some 5))).Yields FileSystem.rule workbench [taken signed]
      (.ok "0xab") workbench :=
    Action.yields_host_bind.mpr ⟨(7 : Int64), workbench, rfl, hsubmits.yields mayIdle_rule.mayLog⟩
  have hconfirms : Confirms "0xab" landedCode.reply landing :=
    ⟨rfl, .confirmed rfl (.intro rfl (.text _) .absent rfl) rfl⟩
  have hconfirm : (scribbling.confirm "0xab").Yields FileSystem.rule workbench [landedCode]
      (.ok landing) workbench :=
    Action.yields_mapError_ok.mpr (hconfirms.yields mayIdle_rule workbench)
  refine ⟨signed, ?_⟩
  rw [deploy_eq]
  have hwait : (do
      let receipt ← scribbling.confirm "0xab"
      return ("0xab", receipt) : Step (String × Receipt)).Yields FileSystem.rule workbench
        ([landedCode] ++ []) (.ok ("0xab", landing)) workbench :=
    hconfirm.bind (.refl _ _)
  have hconfirmed : (scribbling.confirmed (scribbling.prepareDeploy "j" (some 5))).Yields
      FileSystem.rule workbench ([taken signed] ++ [landedCode]) (.ok ("0xab", landing))
        workbench :=
    yields_prepareDeploy.bind_silent ((Action.yields_mapError_ok.mpr hperform).bind hwait)
  exact hconfirmed.bind yields_keepRecord

end

/-! ### Whole runs -/

/-- The record of a package on the network changes only when a transaction is confirmed, and then
at once. At every point of every run of a deployment or an update, also within an operation on
files, the record has its old bytes, or all bytes of the receipt that the node confirmed. A failed
run leaves the old bytes; after a successful one they are those of the receipt with the address that
is given, and the draft is gone. No other file is touched. -/
theorem record_changes_when_confirmed {limit : Option UInt64} {action : Step String}
    (haction : action = ctx.deploy package limit ∨ action = ctx.update package limit)
    (hpackage : IsName package) (hnetwork : IsName ctx.network) (htree : fs.IsTree)
    {q : Program effects (Except Failure String)} {fs₁ : FileSystem}
    (h : Reaches FileSystem.rule action.run fs calls q fs₁) (hseen : Seen q fs₁ fs') :
    let ws := ctx.workspace
    let old := ws.recordBytes? package ctx.network fs
    let seen := ws.recordBytes? package ctx.network fs'
    let draft := placeFrom (ws.draftPath package ctx.network) fs.current
    let record := placeFrom (ws.recordPath package ctx.network) fs.current
    (seen = old ∨ ∃ receipt address, HasConfirmed ctx.terms receipt calls ∧
        receipt.contract = some address ∧ seen = some (Bytes.ofText receipt.toJson.pretty)) ∧
      (∀ e, q = .done (.error e) → seen = old) ∧
      (∀ a, q = .done (.ok a) → fs'.entry? draft = none ∧ ∃ receipt,
        HasConfirmed ctx.terms receipt calls ∧ receipt.contract = some a ∧
          seen = some (Bytes.ofText receipt.toJson.pretty)) ∧
      (∀ place, place ≠ record → place ≠ draft → fs'.entry? place = fs.entry? place ∨
        fs.entry? place = none ∧ fs'.entry? place = some .directory ∧
          LeadsThrough (ws.networkPath package ctx.network) fs.current place) ∧
      ∀ package' network', IsName package' → IsName network' →
        ¬(package' = package ∧ network' = ctx.network) →
          ws.recordBytes? package' network' fs' = ws.recordBytes? package' network' fs := by
  intro ws old seen draft record
  obtain ⟨q', hq'⟩ := hseen.exists_reaches h
  obtain ⟨-, hpoint⟩ := drafts_or_records haction hpackage hnetwork htree hq'
  have hdraft : draft = ws.draftPlace fs.current package ctx.network :=
    Workspace.placeFrom_draftPath hpackage hnetwork
  have hrecord : record = ws.recordPlace fs.current package ctx.network :=
    Workspace.placeFrom_recordPath hpackage hnetwork
  refine ⟨?_, ?_, ?_, ?_, ?_⟩
  · rcases hpoint with ⟨hdrafts, -⟩ | ⟨receipt, address, hconfirmed, hcontract, hrecords, -⟩
    · exact .inl (hdrafts.recordBytes?_eq hpackage hnetwork)
    · exact .inr ⟨receipt, address, hconfirmed, hcontract,
        hrecords.recordBytes?_eq_some hpackage hnetwork⟩
  · rintro e rfl
    obtain rfl := hseen.eq_of_done
    obtain ⟨-, ⟨hdrafts, -⟩ | ⟨_, _, -, -, -, hq⟩⟩ :=
      drafts_or_records haction hpackage hnetwork htree h
    · exact hdrafts.recordBytes?_eq hpackage hnetwork
    · exact nomatch hq _ rfl
  · rintro a rfl
    obtain rfl := hseen.eq_of_done
    obtain ⟨-, ⟨-, hq⟩ | ⟨receipt, address, hconfirmed, hcontract, hrecords, hq⟩⟩ :=
      drafts_or_records haction hpackage hnetwork htree h
    · exact absurd rfl (hq a)
    · obtain rfl := Except.ok.inj (hq _ rfl)
      exact ⟨hdraft ▸ hrecords.draft_eq, receipt, hconfirmed, hcontract,
        hrecords.recordBytes?_eq_some hpackage hnetwork⟩
  · intro place hplace hplace'
    rw [hrecord] at hplace
    rw [hdraft] at hplace'
    rcases hpoint with ⟨hdrafts, -⟩ | ⟨receipt, address, -, -, hrecords, -⟩
    · exact hdrafts.entry?_eq hplace'
    · exact hrecords.changes.entry?_eq (not_or_intro hplace' hplace)
  · intro package' network' hpackage' hnetwork' hne
    rcases hpoint with ⟨hdrafts, -⟩ | ⟨receipt, address, -, -, hrecords, -⟩
    · exact hdrafts.recordBytes?_eq hpackage' hnetwork'
    · exact hrecords.recordBytes?_eq hpackage' hnetwork' hne

/-- The deployment lands at the address `cx01`: its record holds that address, and the draft is
gone. -/
theorem record_changes_when_confirmed_landing : ∃ signed,
    (scribbling.deploy "j" (some 5)).Yields FileSystem.rule workbench
        [taken signed, landedCode] (.ok "cx01") recorded ∧
      recorded.entry? (placeFrom (scribbling.workspace.draftPath "j" "local") workbench.current) =
        none ∧
      ∃ receipt, HasConfirmed scribbling.terms receipt [taken signed, landedCode] ∧
        receipt.contract = some "cx01" ∧
        scribbling.workspace.recordBytes? "j" "local" recorded =
          some (Bytes.ofText receipt.toJson.pretty) := by
  obtain ⟨signed, hdeploy⟩ := yields_deploy_workbench
  obtain ⟨-, -, hlanded, -, -⟩ := record_changes_when_confirmed (.inl rfl) (by decide) (by decide)
    isTree_workbench hdeploy (.inl rfl)
  exact ⟨signed, hdeploy, hlanded "cx01" rfl⟩

end ScoreDeploy.Context
