import ScoreDeploy.Proofs.Command.Records

/-!
# The targets of commands

Commands that need a deployed package address the contract in its record, and only deployments and
updates change records. So over any sequence of commands on a workspace each of them addresses what
the last deployment or update of its package on its network gave, or else what the record told in
the beginning.
-/

namespace ScoreDeploy

open Json

/-- The call names that recipient, unless it asks what became of a transaction. -/
def Call.GoesTo (recipient : String) (call : Call) : Prop :=
  call.method ≠ "icx_getTransactionResult" →
    Members.get? call.params "to" = some (.string recipient)

theorem Query.get?_to_wireParams (query : Query) :
    Members.get? query.wireParams "to" = some (.string query.recipient) := by
  rw [wireParams, Members.get?_ofList, List.reverse_append, Members.get?_append]
  simp [Members.get?_cons]

theorem Submission.IsConfirmed.isWritable {terms : Terms} {receipt : Receipt} {calls : List Call}
    (h : IsConfirmed terms receipt calls)
    (hparsed : ∀ call ∈ calls, ∀ value, call.reply = .ok value → value.IsParsed) :
    receipt.IsWritable := by
  cases h with
  | @intro send last hash gets hsend hhash hwait hconfirms =>
    apply hconfirms.isWritable
    apply hparsed
    simp

namespace Context

open Submission ScoreDeploy.Path

/-! ### Recipients -/

section

variable {σ α : Type} {rule : MachineRule σ} {s t : σ} {ctx : Context} {prepare : Step Prepared}
variable {calls : List Call}

/-- Without an operation there are no calls; otherwise they are those of the operation, but for the
waiting. -/
theorem performs_of_confirmed {r : Except Failure (String × Receipt)}
    (hlooks : prepare.AsksOnly Effect.Looks) (h : (ctx.confirmed prepare).Yields rule s calls r t) :
    (∃ e, calls = [] ∧ r = .error e) ∨ ∃ prepared m, prepare.Yields rule s [] (.ok prepared) m ∧
      ∃ sent outcome m', (prepared.operation.perform ctx.terms prepared.signer).Yields rule m sent
        outcome m' ∧ ∀ call ∈ calls, call.method ≠ "icx_getTransactionResult" → call ∈ sent := by
  refine (cases_of_confirmed hlooks h).imp_right ?_
  rintro ⟨prepared, m, hprepared, hrest⟩
  refine ⟨prepared, m, hprepared, ?_⟩
  rcases hrest with ⟨_, _, -, hperform⟩ | ⟨_, _, sent, gets, rfl, hperform, hwait, -⟩
  · exact ⟨calls, _, _, hperform, fun _ hcall _ => hcall⟩
  · refine ⟨sent, _, _, hperform, fun call hcall hmethod => ?_⟩
    rcases List.mem_append.mp hcall with hsent | hget
    · exact hsent
    · exact absurd (hwait.asks call hget).method_eq hmethod

theorem performs_of_submitting {finish : String → Receipt → Step α} {r : Except Failure α}
    (hlooks : prepare.AsksOnly Effect.Looks)
    (hfinish : ∀ hash receipt, (finish hash receipt).AsksOnly Effect.IsHost)
    (h : (ctx.submitting prepare finish).Yields rule s calls r t) :
    (∃ e, calls = [] ∧ r = .error e) ∨ ∃ prepared m, prepare.Yields rule s [] (.ok prepared) m ∧
      ∃ sent outcome m', (prepared.operation.perform ctx.terms prepared.signer).Yields rule m sent
        outcome m' ∧ ∀ call ∈ calls, call.method ≠ "icx_getTransactionResult" → call ∈ sent := by
  obtain ⟨r', m, hconfirmed, herror⟩ := confirmed_of_submitting hfinish h
  refine (performs_of_confirmed hlooks hconfirmed).imp_left ?_
  rintro ⟨e, hcalls, hr⟩
  exact ⟨e, hcalls, herror e hr⟩

/-- The calls of an operation go to its recipient. -/
theorem goesTo_of_perform {terms : Terms} {prepared : Prepared} {sent : List Call}
    {outcome : Except Error String}
    (hperform : (prepared.operation.perform terms prepared.signer).Yields rule s sent outcome t)
    (hsent : ∀ call ∈ calls, call.method ≠ "icx_getTransactionResult" → call ∈ sent) :
    ∀ call ∈ calls, call.GoesTo prepared.operation.recipient :=
  fun call hcall hmethod => Operation.to_eq_of_mem hperform call (hsent call hcall hmethod)

theorem goesTo_of_confirmed {r : Except Failure (String × Receipt)}
    (hlooks : prepare.AsksOnly Effect.Looks) (h : (ctx.confirmed prepare).Yields rule s calls r t) :
    (∃ e, calls = [] ∧ r = .error e) ∨ ∃ prepared m, prepare.Yields rule s [] (.ok prepared) m ∧
      ∀ call ∈ calls, call.GoesTo prepared.operation.recipient := by
  refine (performs_of_confirmed hlooks h).imp_right ?_
  rintro ⟨prepared, m, hprepared, sent, outcome, m', hperform, hsent⟩
  exact ⟨prepared, m, hprepared, goesTo_of_perform hperform hsent⟩

theorem goesTo_of_submitting {finish : String → Receipt → Step α} {r : Except Failure α}
    (hlooks : prepare.AsksOnly Effect.Looks)
    (hfinish : ∀ hash receipt, (finish hash receipt).AsksOnly Effect.IsHost)
    (h : (ctx.submitting prepare finish).Yields rule s calls r t) :
    (∃ e, calls = [] ∧ r = .error e) ∨ ∃ prepared m, prepare.Yields rule s [] (.ok prepared) m ∧
      ∀ call ∈ calls, call.GoesTo prepared.operation.recipient := by
  refine (performs_of_submitting hlooks hfinish h).imp_right ?_
  rintro ⟨prepared, m, hprepared, sent, outcome, m', hperform, hsent⟩
  exact ⟨prepared, m, hprepared, goesTo_of_perform hperform hsent⟩

end

section

variable {ctx : Context} {package : String} {prepared : Prepared} {fs fs' : FileSystem}
variable {calls : List Call}

/-- Who prepares an operation for the address that is found in the workspace addresses the recorded
one. -/
theorem recordedAddress?_of_prepare {rest : Signer → String → Step Prepared}
    (hrest : ∀ signer address,
      (rest signer address).Ensures fun p => p.operation.recipient = address)
    (h : (do
      let signer ← ctx.requireSigner
      let address ← onWorkspace (ctx.workspace.address package ctx.network)
      rest signer address : Step Prepared).Yields FileSystem.rule fs calls (.ok prepared) fs') :
    ctx.workspace.recordedAddress? package ctx.network fs =
      some prepared.operation.recipient := by
  obtain ⟨signer, -, hfind⟩ :=
    (looks_requireSigner ctx).exists_yields_of_bind FileSystem.keepsLooking_rule h
  rcases Action.yields_bind.mp hfind with ⟨_, -, hr⟩ | ⟨address, _, _, _, haddress, hprepare, -⟩
  · cases hr
  rw [(hrest signer address).of_yields hprepare]
  exact (Workspace.recordedAddress?_of_yields (Action.yields_mapError_ok.mp haddress)).1

theorem recordedAddress?_of_prepareUpdate {limit : Option UInt64}
    (h : (ctx.prepareUpdate package limit).Yields FileSystem.rule fs calls (.ok prepared) fs') :
    ctx.workspace.recordedAddress? package ctx.network fs = some prepared.operation.recipient :=
  recordedAddress?_of_prepare
    (fun _ _ => .bind fun _ => .bind fun _ => .bind fun _ => .pure rfl) h

theorem recordedAddress?_of_prepareInvoke {name : String} {limit : Option UInt64}
    (h : (ctx.prepareInvoke package name limit).Yields FileSystem.rule fs calls (.ok prepared)
      fs') :
    ctx.workspace.recordedAddress? package ctx.network fs = some prepared.operation.recipient :=
  recordedAddress?_of_prepare (fun _ _ => .bind fun _ => .pure rfl) h

theorem goesTo_of_query {name : String} {r : Except Failure Json}
    (h : (ctx.query package name).Yields FileSystem.rule fs calls r fs') :
    (∃ e, calls = [] ∧ r = .error e) ∨ ∃ address,
      ctx.workspace.recordedAddress? package ctx.network fs = some address ∧
        ∀ call ∈ calls, call.GoesTo address := by
  rcases calls_of_query h with hfails | ⟨address, _, haddress, hcalls⟩
  · exact .inl hfails
  refine .inr ⟨address, (Workspace.recordedAddress?_of_yields haddress).1, ?_⟩
  rcases hcalls with rfl | ⟨_, _, _, -, rfl⟩
  · exact List.forall_mem_nil _
  · exact List.forall_mem_singleton.mpr fun _ => Query.get?_to_wireParams _

end

/-! ### Tasks and records -/

namespace Task

/-- The package that a task is about. -/
def package? : Task → Option String
  | deploy package _ => some package
  | update package _ => some package
  | invoke package _ _ => some package
  | query package _ => some package
  | transfer .. => none
  | fund .. => none

/-- The package that has to be deployed already. -/
def deployed? : Task → Option String
  | update package _ => some package
  | invoke package _ _ => some package
  | query package _ => some package
  | _ => none

variable {ctx : Context} {task : Task} {package : String} {calls : List Call}
variable {fs fs' : FileSystem} {r : Except Failure task.Result}

/-- A task for a deployed package fails without a call, or all its calls go to the recorded
address. -/
theorem fails_or_goesTo (htask : task.deployed? = some package)
    (h : (task.run ctx).Yields FileSystem.rule fs calls r fs') :
    (∃ e, calls = [] ∧ r = .error e) ∨ ∃ address,
      ctx.workspace.recordedAddress? package ctx.network fs = some address ∧
        ∀ call ∈ calls, call.GoesTo address := by
  cases task with
  | update package limit =>
    cases htask
    rw [run, update_eq] at h
    refine (goesTo_of_submitting (looks_prepareUpdate _ _ _) (fun _ => isHost_keepRecord _ _)
      h).imp_right ?_
    rintro ⟨prepared, m, hprepared, hcalls⟩
    exact ⟨_, recordedAddress?_of_prepareUpdate hprepared, hcalls⟩
  | invoke package name limit =>
    cases htask
    rw [run, invoke_eq] at h
    refine (goesTo_of_submitting (looks_prepareInvoke _ _ _ _)
      (fun _ _ => .bind (.host trivial) fun _ => .pure _) h).imp_right ?_
    rintro ⟨prepared, m, hprepared, hcalls⟩
    exact ⟨_, recordedAddress?_of_prepareInvoke hprepared, hcalls⟩
  | query package name =>
    cases htask
    exact goesTo_of_query h
  | _ => cases htask

end Task

/-! ### What a run does to the records -/

section

variable {ctx : Context} {fs fs' : FileSystem} {calls : List Call}

/-- Where code lands, the record of its package on the network tells the new address. -/
theorem recordedAddress?_of_landing {package : String} {limit : Option UInt64}
    {action : Step String} (haction : action = ctx.deploy package limit ∨
      action = ctx.update package limit)
    (hpackage : IsName package) (hnetwork : IsName ctx.network) (htree : fs.IsTree)
    (hparsed : ∀ call ∈ calls, ∀ value, call.reply = .ok value → value.IsParsed)
    {r : Except Failure String} (h : action.Yields FileSystem.rule fs calls r fs') :
    fs'.IsTree ∧ ∀ package' network', IsName package' → IsName network' →
      ctx.workspace.recordedAddress? package' network' fs' =
        (if package = package' ∧ ctx.network = network' then r.toOption else none).or
          (ctx.workspace.recordedAddress? package' network' fs) := by
  obtain ⟨htree', ⟨hdrafts, hq⟩ | ⟨receipt, address, hconfirmed, hcontract, hrecords, hq⟩⟩ :=
    drafts_or_records haction hpackage hnetwork htree h
  · refine ⟨htree', ?_⟩
    intro package' network' hpackage' hnetwork'
    have hr : r.toOption = none := by
      cases r with
      | error e => rfl
      | ok a => exact absurd rfl (hq a)
    rw [hr, ite_self, Option.none_or]
    exact Workspace.recordedAddress?_congr (hdrafts.recordBytes?_eq hpackage' hnetwork')
  · obtain rfl : r = .ok address := hq r rfl
    obtain ⟨before, confirmed, rfl, hconfirmed⟩ := hconfirmed
    have hwritable : receipt.IsWritable :=
      hconfirmed.isWritable fun call hcall => hparsed call (List.mem_append_right before hcall)
    refine ⟨htree', ?_⟩
    intro package' network' hpackage' hnetwork'
    by_cases hsame : package = package' ∧ ctx.network = network'
    · have hnew : ctx.workspace.recordedAddress? package ctx.network fs' = some address := by
        rw [Workspace.recordedAddress?_of_recordBytes? hwritable
          (hrecords.recordBytes?_eq_some hpackage hnetwork), hcontract]
      rw [if_pos hsame, ← hsame.1, ← hsame.2, hnew]
      rfl
    · rw [if_neg hsame, Option.none_or]
      apply Workspace.recordedAddress?_congr
      apply hrecords.recordBytes?_eq hpackage' hnetwork'
      rintro ⟨rfl, rfl⟩
      exact hsame ⟨rfl, rfl⟩

end

theorem keeps_invoke (ctx : Context) (package name : String) (limit : Option UInt64) :
    (ctx.invoke package name limit).AsksOnly Effect.Keeps := by
  rw [invoke_eq]
  exact .bind (keeps_confirmed _ (looks_prepareInvoke _ _ _ _)) fun _ =>
    .bind (.host trivial) fun _ => .pure _

theorem keeps_query (ctx : Context) (package name : String) :
    (ctx.query package name).AsksOnly Effect.Keeps :=
  .bind (Action.AsksOnly.mapError _ (Workspace.looks_address _ _ _)).keeps fun _ =>
    .bind (Action.AsksOnly.mapError _ (Workspace.looks_call _ _ _ _)).keeps fun _ =>
      .bind (.mapError _ (.bind (.node trivial) fun _ => .orFail _ _)) fun _ =>
        .bind (.host trivial) fun _ => .pure _

theorem keeps_transfer (ctx : Context) (recipient : String) (amount : Loop)
    (limit : Option UInt64) : (ctx.transfer recipient amount limit).AsksOnly Effect.Keeps := by
  rw [transfer_eq]
  exact .bind (keeps_confirmed _ (looks_prepareTransfer _ _ _ _)) fun _ =>
    .bind (.host trivial) fun _ => .bind (.host trivial) fun _ => .pure _

/-! ### Sequences of commands -/

/-- A run of a command that has ended. -/
structure PastRun where
  ctx : Context
  task : Task
  calls : List Call
  result : Except Failure task.Result

namespace PastRun

/-- The address that the run gave, if it put code of that package on that network. -/
def landed? (package network : String) : PastRun → Option String
  | ⟨ctx, .deploy package' _, _, r⟩ =>
    if package' = package ∧ ctx.network = network then r.toOption else none
  | ⟨ctx, .update package' _, _, r⟩ =>
    if package' = package ∧ ctx.network = network then r.toOption else none
  | _ => none

/-- The run is one on that workspace, and leads from files to others. Packages and networks have
names of one component, what nodes replied was read from texts, and no accounts were funded. -/
structure Happens (ws : Workspace) (run : PastRun) (fs fs' : FileSystem) : Prop where
  workspace_eq : run.ctx.workspace = ws
  isName : ∀ package ∈ run.task.package?, IsName package ∧ IsName run.ctx.network
  noFunding : ∀ count amount storage, run.task ≠ .fund count amount storage
  isParsed : ∀ call ∈ run.calls, ∀ value, call.reply = .ok value → value.IsParsed
  yields : (run.task.run run.ctx).Yields FileSystem.rule fs run.calls run.result fs'

/-- Of all records a run changes at most that of the package whose code has landed. -/
theorem Happens.recordedAddress?_eq {ws : Workspace} {run : PastRun} {fs fs' : FileSystem}
    (h : run.Happens ws fs fs') (htree : fs.IsTree) :
    fs'.IsTree ∧ ∀ package network, IsName package → IsName network →
      ws.recordedAddress? package network fs' =
        (run.landed? package network).or (ws.recordedAddress? package network fs) := by
  obtain ⟨ctx, task, calls, r⟩ := run
  obtain ⟨rfl, hname, hfunding, hparsed, hyields⟩ := h
  have hkept : (task.run ctx).AsksOnly Effect.Keeps → fs' = fs := fun hkeeps =>
    hkeeps.state_eq FileSystem.keepsLooking_rule hyields
  cases task with
  | deploy package limit =>
    obtain ⟨hpackage, hnetwork⟩ := hname package rfl
    exact recordedAddress?_of_landing (.inl rfl) hpackage hnetwork htree hparsed hyields
  | update package limit =>
    obtain ⟨hpackage, hnetwork⟩ := hname package rfl
    exact recordedAddress?_of_landing (.inr rfl) hpackage hnetwork htree hparsed hyields
  | invoke package name limit =>
    obtain rfl := hkept (keeps_invoke _ _ _ _)
    exact ⟨htree, fun _ _ _ _ => rfl⟩
  | query package name =>
    obtain rfl := hkept (keeps_query _ _ _)
    exact ⟨htree, fun _ _ _ _ => rfl⟩
  | transfer recipient amount limit =>
    obtain rfl := hkept (keeps_transfer _ _ _ _)
    exact ⟨htree, fun _ _ _ _ => rfl⟩
  | fund count amount storage => exact absurd rfl (hfunding count amount storage)

end PastRun

/-- Runs on one workspace, one after another; the latest one stands first. -/
inductive Session (ws : Workspace) (fs : FileSystem) : List PastRun → FileSystem → Prop
  | start : Session ws fs [] fs
  | next {run : PastRun} {history : List PastRun} {fs₁ fs₂ : FileSystem} :
      Session ws fs history fs₁ → run.Happens ws fs₁ fs₂ → Session ws fs (run :: history) fs₂

/-- The address that the last run gave which put code of that package on that network. -/
def lastLanding? (history : List PastRun) (package network : String) : Option String :=
  history.findSome? fun run => run.landed? package network

theorem lastLanding?_cons (run : PastRun) (history : List PastRun) (package network : String) :
    lastLanding? (run :: history) package network =
      (run.landed? package network).or (lastLanding? history package network) := by
  rw [lastLanding?, List.findSome?_cons]
  cases run.landed? package network <;> rfl

/-- What the records tell is what landed last, or else what they told in the beginning. -/
theorem Session.recordedAddress?_eq {ws : Workspace} {history : List PastRun} {fs fs' : FileSystem}
    (h : Session ws fs history fs') (htree : fs.IsTree) :
    fs'.IsTree ∧ ∀ package network, IsName package → IsName network →
      ws.recordedAddress? package network fs' =
        (lastLanding? history package network).or
          (ws.recordedAddress? package network fs) := by
  induction h with
  | start => exact ⟨htree, fun _ _ _ _ => rfl⟩
  | @next run history fs₁ fs₂ _ hrun ih =>
    obtain ⟨htree₁, htold₁⟩ := ih
    obtain ⟨htree₂, htold₂⟩ := hrun.recordedAddress?_eq htree₁
    refine ⟨htree₂, ?_⟩
    intro package network hpackage hnetwork
    rw [htold₂ package network hpackage hnetwork, htold₁ package network hpackage hnetwork,
      lastLanding?_cons, Option.or_assoc]

/-- After any sequence of deployments, updates, invocations, queries and transfers on a workspace,
however they ended, a command for a deployed package is sent only to the address that the last
successful deployment or update of that package on its network gave, or else to the one that its
record told in the beginning. If there is neither, the command makes no calls and can only fail.
This holds at every point of its run. -/
theorem Session.targets_last_landing {ctx : Context} {task : Task} {package : String}
    {history : List PastRun} {fs fs₁ fs₂ : FileSystem} {calls : List Call}
    {q : Program effects (Except Failure task.Result)} (htree : fs.IsTree)
    (hsession : Session ctx.workspace fs history fs₁) (htask : task.deployed? = some package)
    (hpackage : IsName package) (hnetwork : IsName ctx.network)
    (h : Reaches FileSystem.rule (task.run ctx).run fs₁ calls q fs₂) :
    let target := (lastLanding? history package ctx.network).or
      (ctx.workspace.recordedAddress? package ctx.network fs)
    (∀ call ∈ calls, call.method ≠ "icx_getTransactionResult" → ∃ address,
        target = some address ∧ Members.get? call.params "to" = some (.string address)) ∧
      (target = none → calls = [] ∧ ∀ r, q = .done r → ∃ e, r = .error e) := by
  intro target
  have htarget : ctx.workspace.recordedAddress? package ctx.network fs₁ = target :=
    (hsession.recordedAddress?_eq htree).2 package ctx.network hpackage hnetwork
  -- What holds of the calls of all finished runs holds of those up to this point.
  have hfinished : ∀ calls r fs₂,
      Reaches FileSystem.rule (task.run ctx).run fs₁ calls (.done r) fs₂ →
      calls = [] ∨ ∃ address, target = some address ∧ ∀ call ∈ calls, call.GoesTo address := by
    intro calls r fs₂ hdone
    rcases Task.fails_or_goesTo htask hdone with ⟨_, hcalls, -⟩ | ⟨address, haddress, hcalls⟩
    · exact .inl hcalls
    · exact .inr ⟨address, htarget.symm.trans haddress, hcalls⟩
  obtain ⟨later, hcalls, -⟩ := Reaches.exists_later FileSystem.mayIdle_rule hfinished h
  constructor
  · intro call hcall hmethod
    have hmem : call ∈ calls ++ later := List.mem_append_left later hcall
    rcases hcalls with hnil | ⟨address, haddress, hgoes⟩
    · rw [hnil] at hmem
      cases hmem
    · exact ⟨address, haddress, hgoes call hmem hmethod⟩
  · intro hnone
    constructor
    · rcases hcalls with hnil | ⟨address, haddress, -⟩
      · exact (List.append_eq_nil_iff.mp hnil).1
      · rw [hnone] at haddress
        cases haddress
    · rintro r rfl
      rcases Task.fails_or_goesTo htask h with ⟨e, -, hr⟩ | ⟨address, haddress, -⟩
      · exact ⟨e, hr⟩
      · rw [htarget, hnone] at haddress
        cases haddress

/-! ### An update after a deployment -/

theorem isParsed_object_string (key t : String) : (Json.object [(key, .string t)]).IsParsed := by
  apply IsParsed.of_integers
  · exact .object (List.pairwise_singleton _ _) (List.forall_mem_singleton.mpr (.string t))
  · exact .object (List.forall_mem_singleton.mpr (.string _ t))

theorem isParsed_landed : (Json.object [("result", .object [("scoreAddress", .string "cx01"),
    ("status", .string "0x1")])]).IsParsed := by
  have hsorted :
      Members.IsSorted [("scoreAddress", .string "cx01"), ("status", .string "0x1")] := by
    rw [Members.IsSorted, List.pairwise_pair]
    decide +kernel
  apply IsParsed.of_integers
  · refine .object (List.pairwise_singleton _ _)
      (List.forall_mem_singleton.mpr (.object hsorted ?_))
    exact List.forall_mem_cons.mpr ⟨.string _, List.forall_mem_singleton.mpr (.string _)⟩
  · refine .object (List.forall_mem_singleton.mpr (.object ?_))
    exact List.forall_mem_cons.mpr ⟨.string _ _, List.forall_mem_singleton.mpr (.string _ _)⟩

theorem hasPackage_recorded : HasPackage recorded := by
  constructor <;> decide +kernel

theorem isWritable_landing : landing.IsWritable where
  isSorted := List.Pairwise.nil
  isUnknown := List.forall_mem_nil _
  isCanonical := List.forall_mem_nil _
  fits := List.forall_mem_nil _

theorem yields_address_of_landing {fs : FileSystem}
    (h : fs.read (scribbling.workspace.recordPath "j" "local") =
      .ok (Bytes.ofText landing.toJson.pretty)) :
    (scribbling.workspace.address "j" "local").Yields FileSystem.rule fs [] (.ok "cx01") fs := by
  have hrecord : Workspace.Tells fs Receipt.read (scribbling.workspace.recordPath "j" "local")
      landing := ⟨_, _, h, Bytes.toText?_ofText _, isWritable_landing.read_pretty⟩
  exact Workspace.yields_address_ok.mpr ⟨landing, hrecord, rfl, rfl, rfl⟩

theorem yields_prepareUpdate_recorded :
    (scribbling.prepareUpdate "j" (some 5)).Yields FileSystem.rule recorded []
      (.ok ⟨Operation.scribble, .update "cx01" contentType [0xca, 0xfe] (some []) (some 5)⟩)
        recorded := by
  have hsigner : scribbling.requireSigner.Yields FileSystem.rule recorded []
      (.ok Operation.scribble) recorded := .refl _ _
  have hread : recorded.read (scribbling.workspace.recordPath "j" "local") =
      .ok (Bytes.ofText landing.toJson.pretty) := by decide +kernel
  refine hsigner.bind_silent ?_
  refine (Action.yields_mapError_ok.mpr (yields_address_of_landing hread)).bind_silent ?_
  refine hasPackage_recorded.yields_artifact.bind_silent ?_
  refine hasPackage_recorded.yields_params.bind_silent ?_
  exact Action.yields_log_bind FileSystem.mayIdle_rule.mayLog (.refl _ _)

theorem exists_session_landing : ∃ signed, Session scribbling.workspace workbench
    [⟨scribbling, .deploy "j" (some 5), [taken signed, landedCode], .ok "cx01"⟩] recorded := by
  obtain ⟨signed, hdeploy⟩ := yields_deploy_workbench
  refine ⟨signed, .next .start ⟨rfl, ?_, ?_, ?_, hdeploy⟩⟩
  · rintro package ⟨⟩
    have hlocal : IsName scribbling.network := by decide
    exact ⟨by decide, hlocal⟩
  · rintro count amount storage ⟨⟩
  · intro call hcall value hvalue
    rcases List.mem_pair.mp hcall with rfl | rfl
    · obtain rfl := Except.ok.inj hvalue
      exact isParsed_object_string _ _
    · obtain rfl := Except.ok.inj hvalue
      exact isParsed_landed

/-- What is prepared is sent and refused, and nothing else happens. -/
theorem exists_yields_refusal {α : Type} {prepare : Step Prepared} {op : Operation}
    {fs : FileSystem} (finish : String → Receipt → Step α)
    (hprepare : prepare.Yields FileSystem.rule fs [] (.ok ⟨Operation.scribble, op⟩) fs)
    (hperform : ∀ {calls r}, (do
        let now ← Action.host .now
        submit scribbling.terms (op.transaction Operation.scribble.address 3 now) Operation.scribble
          (some 5) : Action Error String).Yields FileSystem.rule fs calls r fs →
      (op.perform scribbling.terms Operation.scribble).Yields FileSystem.rule fs calls r fs) :
    ∃ signed, (scribbling.submitting prepare finish).Yields FileSystem.rule fs [refusal signed]
        (.error (.submission (.node (.invalid "refused")))) fs ∧
      op.Describes Operation.scribble.address 3 5 signed.params := by
  obtain ⟨signed, hsigned⟩ : ∃ signed,
      (op.transaction Operation.scribble.address 3 7).sign? 5 Operation.scribble = some signed :=
    ⟨_, rfl⟩
  have hsubmits : Submits scribbling.terms (op.transaction Operation.scribble.address 3 7)
      Operation.scribble (some 5) [refusal signed] (.error (.node (.invalid "refused"))) :=
    .limited (.given 5) (.refused hsigned rfl)
  have hrefused : (op.perform scribbling.terms Operation.scribble).Yields FileSystem.rule fs
      [refusal signed] (.error (.node (.invalid "refused"))) fs :=
    hperform (Action.yields_host_bind.mpr ⟨(7 : Int64), fs, rfl,
      hsubmits.yields FileSystem.mayIdle_rule.mayLog⟩)
  have hconfirmed : (scribbling.confirmed prepare).Yields FileSystem.rule fs [refusal signed]
      (.error (.submission (.node (.invalid "refused")))) fs :=
    hprepare.bind_silent (Action.yields_bind.mpr
      (.inl ⟨_, Action.yields_mapError_error.mpr ⟨_, hrefused, rfl⟩, rfl⟩))
  have hdescribes : op.Describes Operation.scribble.address scribbling.terms.network 5
      signed.params := Operation.describes_signed hsigned
  exact ⟨signed, Action.yields_bind.mpr (.inl ⟨_, hconfirmed, rfl⟩), hdescribes⟩

theorem exists_yields_update_recorded : ∃ signed r,
    (scribbling.update "j" (some 5)).Yields FileSystem.rule recorded
      [⟨"http://node", .send signed, .error (.invalid "refused")⟩] r recorded := by
  obtain ⟨signed, hrefused, -⟩ := exists_yields_refusal (fun _ => scribbling.keepRecord "j")
    yields_prepareUpdate_recorded fun h => h
  refine ⟨signed, .error (.submission (.node (.invalid "refused"))), ?_⟩
  rw [update_eq]
  exact hrefused

/-- A deployment lands at the address `cx01`, and the update after it is sent there. -/
theorem Session.targets_last_landing_update : ∃ signed signed' r,
    Session scribbling.workspace workbench
        [⟨scribbling, .deploy "j" (some 5), [taken signed, landedCode], .ok "cx01"⟩] recorded ∧
      (scribbling.update "j" (some 5)).Yields FileSystem.rule recorded
        [⟨"http://node", .send signed', .error (.invalid "refused")⟩] r recorded ∧
      Members.get? signed'.params "to" = some (.string "cx01") := by
  obtain ⟨signed, hsession⟩ := exists_session_landing
  obtain ⟨signed', r, hupdate⟩ := exists_yields_update_recorded
  have hlocal : IsName scribbling.network := by decide
  have htask : (Task.update "j" (some 5)).deployed? = some "j" := rfl
  have hsend : (Node.Request.send signed').method ≠ "icx_getTransactionResult" := by
    simp [Node.Request.method]
  obtain ⟨hgoes, -⟩ := Session.targets_last_landing isTree_workbench hsession htask (by decide)
    hlocal hupdate
  obtain ⟨address, htarget, hto⟩ := hgoes _ (List.mem_singleton_self _) hsend
  obtain rfl : "cx01" = address := Option.some.inj htarget
  exact ⟨signed, signed', r, hsession, hupdate, hto⟩

end Context

end ScoreDeploy
