import ScoreDeploy.Proofs.Command.Records
import ScoreDeploy.Proofs.Workspace.Parameters
import ScoreDeploy.Run

/-!
# What a command needs before it asks a node

A command looks at its arguments, its signer and its files before it makes the first call.
`Task.IsReady` lists what has to be there, without any reader of a command; where something of it is
missing, the command fails, and neither a node nor a file has noticed it.
-/

namespace ScoreDeploy

/-! ### Refusals -/

/-- From these files on the action makes no calls, changes no file, and ends with an error. -/
structure Action.Refuses {ε α : Type} (x : Action ε α) (fs : FileSystem) : Prop where
  of_reaches {calls : List Call} {q : Program effects (Except ε α)} {fs' : FileSystem} :
    Reaches FileSystem.rule x.run fs calls q fs' →
      calls = [] ∧ fs' = fs ∧ ∀ r, q = .done r → ∃ e, r = .error e

namespace Action.Refuses

variable {ε α β : Type} {fs fs' : FileSystem} {calls : List Call}

/-- A step that only looks fails itself, or its result is refused. -/
theorem bind_of_looks {x : Action ε α} {f : α → Action ε β} (hlooks : x.AsksOnly Effect.Looks)
    (hf : ∀ a, x.Yields FileSystem.rule fs [] (.ok a) fs → (f a).Refuses fs) :
    (x >>= f).Refuses fs := by
  have hsilent : ∀ {calls p' m}, Reaches FileSystem.rule x.run fs calls p' m →
      calls = [] ∧ m = fs := fun h =>
    ⟨(Program.AsksOnly.calls_eq hlooks.isHost h).1,
      Program.AsksOnly.state_eq FileSystem.keepsLooking_rule hlooks.keeps h⟩
  constructor
  intro calls q fs' h
  rcases Action.reaches_bind h with
    ⟨p', hp', -, hq⟩ | ⟨e, he, rfl⟩ | ⟨a, calls₁, m, calls₂, ha, hrest, rfl⟩
  · obtain ⟨rfl, rfl⟩ := hsilent hp'
    exact ⟨rfl, rfl, fun r hr => absurd hr (hq r)⟩
  · obtain ⟨rfl, rfl⟩ := hsilent he
    refine ⟨rfl, rfl, ?_⟩
    rintro r ⟨⟩
    exact ⟨e, rfl⟩
  · obtain ⟨rfl, rfl⟩ := hsilent ha
    exact (hf a ha).of_reaches hrest

/-- What is refused can still come to its end, which is an error. -/
theorem exists_error {x : Action ε α} {q : Program effects (Except ε α)} (hx : x.Refuses fs)
    (h : Reaches FileSystem.rule x.run fs calls q fs') :
    ∃ e, Reaches FileSystem.rule q fs [] (.done (.error e)) fs := by
  obtain ⟨rfl, rfl, -⟩ := hx.of_reaches h
  obtain ⟨later, r, hend⟩ := exists_reaches_done FileSystem.mayIdle_rule q fs'
  obtain ⟨hcalls, -, herror⟩ := hx.of_reaches (h.trans hend)
  obtain ⟨e, rfl⟩ := herror r rfl
  rw [List.nil_append] at hcalls
  exact ⟨e, hcalls ▸ hend⟩

end Action.Refuses

/-! ### Addresses -/

namespace Address

/-- The text is one of the two marks and forty digits in lowercase hexadecimal. -/
def IsWritten (text : String) : Prop :=
  ∃ mark body : String, (mark = "hx" ∨ mark = "cx") ∧ text = mark ++ body ∧ body.length = 40 ∧
    ∀ c ∈ body.toList, c ∈ "0123456789abcdef".toList

theorem toNat_lt_of_isDigit {c : Char} (h : isDigit c = true) : c.toNat < 128 := by
  simp only [isDigit, Bool.or_eq_true, Bool.and_eq_true, decide_eq_true_eq] at h
  have hle : c ≤ 'f' := by
    rcases h with ⟨-, h⟩ | ⟨-, h⟩
    · exact h.trans (by decide)
    · exact h
  exact lt_of_le_of_lt (show c.toNat ≤ 'f'.toNat from hle) (by decide)

theorem isDigit_iff (c : Char) : isDigit c = true ↔ c ∈ "0123456789abcdef".toList := by
  constructor
  · intro h
    -- All codes below 128 are tried.
    have hcode : ∀ n < 128, isDigit (Char.ofNat n) = true →
        Char.ofNat n ∈ "0123456789abcdef".toList := by
      decide +kernel
    have hc := hcode c.toNat (toNat_lt_of_isDigit h)
    rw [Char.ofNat_toNat] at hc
    exact hc h
  · have hall : "0123456789abcdef".toList.all isDigit = true := by decide +kernel
    exact List.all_eq_true.mp hall c

theorem isWritten_of_isValid {text : String} (h : isValid text = true) : IsWritten text := by
  have hbody : ∀ cs, isBody cs = true → (String.ofList cs).length = 40 ∧
      ∀ c ∈ (String.ofList cs).toList, c ∈ "0123456789abcdef".toList := by
    intro cs hcs
    rw [isBody, Bool.and_eq_true, beq_iff_eq, List.all_eq_true] at hcs
    rw [String.length_ofList, String.toList_ofList]
    exact ⟨hcs.1, fun c hc => (isDigit_iff c).mp (hcs.2 c hc)⟩
  have htext : ∀ a b cs, text.toList = a :: b :: cs →
      text = String.ofList [a, b] ++ String.ofList cs := by
    intro a b cs hcs
    rw [← String.ofList_append, ← String.ofList_toList (s := text), hcs]
    rfl
  rw [isValid] at h
  split at h
  · next body hcs => exact ⟨"hx", String.ofList body, .inl rfl, htext _ _ _ hcs, hbody body h⟩
  · next body hcs => exact ⟨"cx", String.ofList body, .inr rfl, htext _ _ _ hcs, hbody body h⟩
  · cases h

end Address

/-! ### Conditions -/

namespace Context

/-- The package was built, and there are parameters for deploying it on the network. -/
def HasCode (ctx : Context) (fs : FileSystem) (package : String) : Prop :=
  ∃ build content params,
    Workspace.Tells fs Workspace.Build.read (ctx.workspace.buildPath package) build ∧
      fs.read (ctx.workspace.artifactPath build) = .ok content ∧
      Workspace.Tells fs Workspace.readParams (ctx.workspace.paramsPath package ctx.network) params

/-- There is a record of the package on the network, and it tells an address. -/
def HasAddress (ctx : Context) (fs : FileSystem) (package : String) : Prop :=
  ∃ receipt address,
    Workspace.Tells fs Receipt.read (ctx.workspace.recordPath package ctx.network) receipt ∧
      receipt.contract = some address

/-- There is a file of the call, and the money in it, if any, is a quantity. -/
def HasCall (ctx : Context) (fs : FileSystem) (package name : String) : Prop :=
  ∃ method params money,
    Workspace.Tells fs Workspace.Call.readParts (ctx.workspace.callPath package ctx.network name)
        (method, params, money) ∧
      ∀ text, money = some text → ∃ quantity, HexNumeral.read text = .ok quantity

/-- What a task needs before it asks a node for anything. -/
def Task.IsReady (ctx : Context) (fs : FileSystem) : Task → Prop
  | deploy package _ => ctx.signer.isSome ∧ ctx.HasCode fs package
  | update package _ => ctx.signer.isSome ∧ ctx.HasAddress fs package ∧ ctx.HasCode fs package
  | invoke package name _ =>
    ctx.signer.isSome ∧ ctx.HasAddress fs package ∧ ctx.HasCall fs package name
  | query package name => ctx.HasAddress fs package ∧ ctx.HasCall fs package name
  | transfer recipient _ _ => ctx.signer.isSome ∧ Address.IsWritten recipient
  | fund .. => ctx.signer.isSome ∧ (ctx.network = "localhost" ∨ ctx.network = "gochain")

variable {ctx : Context} {fs : FileSystem} {package name : String}

theorem isSome_of_requireSigner {signer : Signer}
    (h : ctx.requireSigner.Yields FileSystem.rule fs [] (.ok signer) fs) :
    ctx.signer.isSome := by
  rw [requireSigner] at h
  cases hsigner : ctx.signer with
  | some signer => rfl
  | none =>
    rw [hsigner] at h
    obtain ⟨-, he, -⟩ := Action.yields_throw.mp h
    cases he

theorem hasAddress_of_yields {address : String} (h : (onWorkspace
    (ctx.workspace.address package ctx.network)).Yields FileSystem.rule fs [] (.ok address) fs) :
    ctx.HasAddress fs package := by
  obtain ⟨receipt, htells, hcontract, -⟩ :=
    Workspace.yields_address_ok.mp (Action.yields_mapError_ok.mp h)
  exact ⟨receipt, address, htells, hcontract⟩

theorem hasCall_of_yields {call : Workspace.Call} (h : (onWorkspace
    (ctx.workspace.call package ctx.network name)).Yields FileSystem.rule fs [] (.ok call) fs) :
    ctx.HasCall fs package name := by
  obtain ⟨htells, hvalue, -⟩ := Workspace.yields_call_ok.mp (Action.yields_mapError_ok.mp h)
  refine ⟨call.method, call.params, call.valueText, htells, fun text htext => ⟨call.value, ?_⟩⟩
  rw [htext] at hvalue
  exact hvalue

theorem hasCode_of_yields {path : Path} {content : Bytes} {params : Params}
    (hartifact : (onWorkspace (ctx.workspace.artifact package)).Yields FileSystem.rule fs []
      (.ok (path, content)) fs)
    (hparams : (onWorkspace (ctx.workspace.params package ctx.network)).Yields FileSystem.rule fs []
      (.ok params) fs) : ctx.HasCode fs package := by
  obtain ⟨build, hbuild, rfl, hread, -⟩ :=
    Workspace.yields_artifact_ok.mp (Action.yields_mapError_ok.mp hartifact)
  obtain ⟨htells, -⟩ := Workspace.yields_params_ok.mp (Action.yields_mapError_ok.mp hparams)
  exact ⟨build, content, params, hbuild, hread, htells⟩

/-- A task that is not ready is refused. -/
theorem Task.refuses_of_not_isReady {task : Task} (h : ¬task.IsReady ctx fs) :
    (task.run ctx).Refuses fs := by
  -- The steps before the first call are gone through one by one; if all succeed, the task is ready.
  cases task with
  | deploy package limit =>
    refine .bind_of_looks (looks_requireSigner ctx) fun signer hsigner => ?_
    refine .bind_of_looks (.mapError _ (Workspace.looks_artifact _ _)) fun artifact hartifact => ?_
    refine .bind_of_looks (.mapError _ (Workspace.looks_params _ _ _)) fun params hparams => ?_
    exact absurd ⟨isSome_of_requireSigner hsigner, hasCode_of_yields hartifact hparams⟩ h
  | update package limit =>
    refine .bind_of_looks (looks_requireSigner ctx) fun signer hsigner => ?_
    refine .bind_of_looks (.mapError _ (Workspace.looks_address _ _ _)) fun address haddress => ?_
    refine .bind_of_looks (.mapError _ (Workspace.looks_artifact _ _)) fun artifact hartifact => ?_
    refine .bind_of_looks (.mapError _ (Workspace.looks_params _ _ _)) fun params hparams => ?_
    exact absurd ⟨isSome_of_requireSigner hsigner, hasAddress_of_yields haddress,
      hasCode_of_yields hartifact hparams⟩ h
  | invoke package name limit =>
    refine .bind_of_looks (looks_requireSigner ctx) fun signer hsigner => ?_
    refine .bind_of_looks (.mapError _ (Workspace.looks_address _ _ _)) fun address haddress => ?_
    refine .bind_of_looks (.mapError _ (Workspace.looks_call _ _ _ _)) fun call hcall => ?_
    exact absurd ⟨isSome_of_requireSigner hsigner, hasAddress_of_yields haddress,
      hasCall_of_yields hcall⟩ h
  | query package name =>
    refine .bind_of_looks (.mapError _ (Workspace.looks_address _ _ _)) fun address haddress => ?_
    refine .bind_of_looks (.mapError _ (Workspace.looks_call _ _ _ _)) fun call hcall => ?_
    exact absurd ⟨hasAddress_of_yields haddress, hasCall_of_yields hcall⟩ h
  | transfer recipient amount limit =>
    rw [Task.run, Context.transfer]
    split
    · refine .bind_of_looks (.throw _) fun _ hthrow => ?_
      obtain ⟨-, hne, -⟩ := Action.yields_throw.mp hthrow
      cases hne
    · next hvalid =>
      refine .bind_of_looks (looks_requireSigner ctx) fun signer hsigner => ?_
      have hwritten := Address.isWritten_of_isValid (Decidable.of_not_not hvalid)
      exact absurd ⟨isSome_of_requireSigner hsigner, hwritten⟩ h
  | fund count amount storage =>
    rw [Task.run, Context.fund]
    split
    · refine .bind_of_looks (.throw _) fun _ hthrow => ?_
      obtain ⟨-, hne, -⟩ := Action.yields_throw.mp hthrow
      cases hne
    · next hlocal =>
      refine .bind_of_looks (looks_requireSigner ctx) fun signer hsigner => ?_
      have hnetwork := Decidable.of_not_not hlocal
      rw [Endpoint.isLocal, Bool.or_eq_true, beq_iff_eq, beq_iff_eq] at hnetwork
      exact absurd ⟨isSome_of_requireSigner hsigner, hnetwork⟩ h

/-! ### Signers -/

section

variable {limit : Option UInt64} {recipient : String} {amount : Loop}

theorem failsOnly_requireSigner (h : ctx.signer.isSome) :
    ctx.requireSigner.FailsOnly (· ≠ .noSigner) := by
  obtain ⟨signer, hsigner⟩ := Option.isSome_iff_exists.mp h
  rw [requireSigner, hsigner]
  exact .pure signer

theorem failsOnly_onWorkspace {α : Type} (x : Action Workspace.Error α) :
    (onWorkspace x).FailsOnly (· ≠ .noSigner) :=
  .mapError (fun _ => Failure.noConfusion) x

theorem failsOnly_onNode {α : Type} (x : Action Submission.Error α) :
    (onNode x).FailsOnly (· ≠ .noSigner) :=
  .mapError (fun _ => Failure.noConfusion) x

theorem failsOnly_onKeystore {α : Type} (x : Action Keystore.Error α) :
    (onKeystore x).FailsOnly (· ≠ .noSigner) :=
  .mapError (fun _ => Failure.noConfusion) x

theorem failsOnly_keepRecord (receipt : Receipt) :
    (ctx.keepRecord package receipt).FailsOnly (· ≠ .noSigner) := by
  rw [keepRecord]
  split
  · exact .throw Failure.noConfusion
  · exact .bind (failsOnly_onWorkspace _) fun _ => .bind (.host _) fun _ => .bind (.host _) fun _ =>
      .pure _

theorem failsOnly_keepKey (storage : Option KeyStorage) (wallet : Wallet) :
    (keepKey storage wallet).FailsOnly (· ≠ .noSigner) := by
  cases storage with
  | some storage => exact .bind (failsOnly_onKeystore _) fun _ => .host _
  | none => exact .host _

theorem failsOnly_submitting {α : Type} {prepare : Step Prepared}
    {finish : String → Receipt → Step α}
    (hprepare : prepare.FailsOnly (· ≠ .noSigner))
    (hfinish : ∀ hash receipt, (finish hash receipt).FailsOnly (· ≠ .noSigner)) :
    (ctx.submitting prepare finish).FailsOnly (· ≠ .noSigner) :=
  .bind (.bind hprepare fun _ => .bind (failsOnly_onNode _) fun _ =>
    .bind (failsOnly_onNode _) fun _ => .pure _) fun _ => hfinish _ _

theorem failsOnly_prepareDeploy (h : ctx.signer.isSome) :
    (ctx.prepareDeploy package limit).FailsOnly (· ≠ .noSigner) :=
  .bind (failsOnly_requireSigner h) fun _ => .bind (failsOnly_onWorkspace _) fun _ =>
    .bind (failsOnly_onWorkspace _) fun _ => .bind (.host _) fun _ => .pure _

theorem failsOnly_prepareUpdate (h : ctx.signer.isSome) :
    (ctx.prepareUpdate package limit).FailsOnly (· ≠ .noSigner) :=
  .bind (failsOnly_requireSigner h) fun _ => .bind (failsOnly_onWorkspace _) fun _ =>
    .bind (failsOnly_onWorkspace _) fun _ => .bind (failsOnly_onWorkspace _) fun _ =>
      .bind (.host _) fun _ => .pure _

theorem failsOnly_prepareInvoke (h : ctx.signer.isSome) :
    (ctx.prepareInvoke package name limit).FailsOnly (· ≠ .noSigner) :=
  .bind (failsOnly_requireSigner h) fun _ => .bind (failsOnly_onWorkspace _) fun _ =>
    .bind (failsOnly_onWorkspace _) fun _ => .pure _

theorem failsOnly_prepareTransfer (h : ctx.signer.isSome) :
    (ctx.prepareTransfer recipient amount limit).FailsOnly (· ≠ .noSigner) := by
  rw [prepareTransfer]
  split
  · exact .bind (.throw Failure.noConfusion) fun _ => .bind (failsOnly_requireSigner h) fun _ =>
      .bind (.host _) fun _ => .pure _
  · exact .bind (failsOnly_requireSigner h) fun _ => .bind (.host _) fun _ => .pure _

theorem failsOnly_fundMany (signer : Signer) (storage : Option KeyStorage) (count : Nat)
    (done : List FundedAccount) :
    (ctx.fundMany signer amount storage count done).FailsOnly (· ≠ .noSigner) := by
  have hone : (ctx.fundOne signer amount storage).FailsOnly (· ≠ .noSigner) := by
    rw [fundOne_eq]
    exact .bind (.host _) fun _ => failsOnly_submitting (.pure _) fun _ _ =>
      .bind (failsOnly_keepKey _ _) fun _ => .pure _
  induction count generalizing done with
  | zero => exact .pure _
  | succ count ih => exact .bind hone fun _ => ih _

theorem failsOnly_query :
    (ctx.query package name).FailsOnly (· ≠ .noSigner) :=
  .bind (failsOnly_onWorkspace _) fun _ => .bind (failsOnly_onWorkspace _) fun _ =>
    .bind (failsOnly_onNode _) fun _ => .bind (.host _) fun _ => .pure _

/-- A task that has a signer does not fail for want of one. -/
theorem Task.failsOnly_run (task : Task) (h : ctx.signer.isSome) :
    (task.run ctx).FailsOnly (· ≠ .noSigner) := by
  cases task with
  | deploy package limit =>
    rw [Task.run, deploy_eq]
    exact failsOnly_submitting (failsOnly_prepareDeploy h) fun _ => failsOnly_keepRecord
  | update package limit =>
    rw [Task.run, update_eq]
    exact failsOnly_submitting (failsOnly_prepareUpdate h) fun _ => failsOnly_keepRecord
  | invoke package name limit =>
    rw [Task.run, invoke_eq]
    exact failsOnly_submitting (failsOnly_prepareInvoke h) fun _ _ =>
      .bind (.host _) fun _ => .pure _
  | query package name => exact failsOnly_query
  | transfer recipient amount limit =>
    rw [Task.run, transfer_eq]
    exact failsOnly_submitting (failsOnly_prepareTransfer h) fun _ _ =>
      .bind (.host _) fun _ => .bind (.host _) fun _ => .pure _
  | fund count amount storage =>
    rw [Task.run, Context.fund]
    split
    · exact .bind (.throw Failure.noConfusion) fun _ => .bind (failsOnly_requireSigner h) fun _ =>
        failsOnly_fundMany _ _ _ _
    · exact .bind (failsOnly_requireSigner h) fun _ => failsOnly_fundMany _ _ _ _

end

end Context

namespace Run

open Context

variable {cli : CommandLine} {config : Config}

theorem failsOnly_typed {prompt : String} {missing : Failure} (h : missing ≠ .noSigner) :
    (typed prompt missing).FailsOnly (· ≠ .noSigner) := by
  refine .bind (.host _) fun answer => ?_
  split
  · exact .pure _
  · exact .throw h
  · exact .throw Failure.noConfusion

theorem failsOnly_openWallet : (openWallet cli config).FailsOnly (· ≠ .noSigner) := by
  have hpassword : ∀ path, (keystorePassword cli path).FailsOnly (· ≠ .noSigner) := by
    intro path
    rw [keystorePassword]
    split
    · exact .pure _
    · exact failsOnly_typed Failure.noConfusion
  rw [openWallet]
  split
  · exact .throw Failure.noConfusion
  · exact .bind (hpassword _) fun _ => .bind (failsOnly_onKeystore _) fun _ =>
      .bind (.host _) fun _ => .pure _

theorem failsOnly_prepare : (prepare cli config).FailsOnly (· ≠ .noSigner) := by
  refine .bind (.ofExcept fun e he => ?_) fun endpoint => .bind (.host _) fun _ =>
    .bind ?_ fun _ => .pure _
  · rw [Config.requireEndpoint] at he
    split at he
    · cases he
    · rw [← Except.error.inj he]
      exact Failure.noConfusion
  · rw [signerFor]
    split
    · exact .bind failsOnly_openWallet fun _ => .pure _
    · exact .pure _

/-- Whoever prepares a command that signs has a signer. -/
theorem ensures_isSome_prepare (h : cli.command.needsSigner = true) :
    (prepare cli config).Ensures fun ctx => ctx.signer.isSome := by
  have hsigner : (signerFor cli config).Ensures fun signer => signer.isSome := by
    rw [signerFor, if_pos h]
    exact .bind fun _ => .pure rfl
  exact .bind fun _ => .bind fun _ => .bind_of hsigner fun _ hsome => .pure hsome

theorem failsOnly_storageFor (directory : Option Path) (password : Option String) :
    (storageFor directory password).FailsOnly (· ≠ .noSigner) := by
  have hpassword : ∀ directory, (newPassword password directory).FailsOnly (· ≠ .noSigner) := by
    intro directory
    cases password with
    | some password => exact .pure password
    | none =>
      refine .bind (failsOnly_typed Failure.noConfusion) fun _ =>
        .bind (failsOnly_typed Failure.noConfusion) fun _ => ?_
      dsimp only
      split
      · exact .bind (.throw Failure.noConfusion) fun _ => .pure _
      · exact .pure _
  cases directory with
  | none => exact .pure _
  | some directory => exact .bind (hpassword _) fun _ => .pure _

theorem failsOnly_amountOf (text : String) : (amountOf text).FailsOnly (· ≠ .noSigner) :=
  .orFail (fun _ => Failure.noConfusion) _

/-- What is prepared for a command that signs does not fail for want of a signer. -/
theorem failsOnly_prepared {f : Context → Action Failure Unit} (h : cli.command.needsSigner = true)
    (hf : ∀ ctx : Context, ctx.signer.isSome → (f ctx).FailsOnly (· ≠ .noSigner)) :
    (prepare cli config >>= f).FailsOnly (· ≠ .noSigner) :=
  .bind_of failsOnly_prepare (ensures_isSome_prepare h) hf

theorem failsOnly_perform : (perform cli config).FailsOnly (· ≠ .noSigner) := by
  rw [perform]
  split
  · next package limit hcommand =>
    exact failsOnly_prepared (by rw [hcommand]; rfl) fun ctx hsigner =>
      .discard (Task.failsOnly_run (.deploy package limit) hsigner)
  · next package limit hcommand =>
    exact failsOnly_prepared (by rw [hcommand]; rfl) fun ctx hsigner =>
      .discard (Task.failsOnly_run (.update package limit) hsigner)
  · next package name limit hcommand =>
    exact failsOnly_prepared (by rw [hcommand]; rfl) fun ctx hsigner =>
      .discard (Task.failsOnly_run (.invoke package name limit) hsigner)
  · exact .bind failsOnly_prepare fun ctx => .discard failsOnly_query
  · next recipient amount limit hcommand =>
    exact .bind (failsOnly_amountOf _) fun amount => failsOnly_prepared (by rw [hcommand]; rfl)
      fun ctx hsigner => .discard (Task.failsOnly_run (.transfer recipient amount limit) hsigner)
  · next count amount directory password hcommand =>
    exact .bind (failsOnly_amountOf _) fun amount => failsOnly_prepared (by rw [hcommand]; rfl)
      fun ctx hsigner => .bind (failsOnly_storageFor _ _) fun storage =>
        .discard (Task.failsOnly_run (.fund count amount storage) hsigner)
  · exact .bind (.orFail (fun _ => Failure.noConfusion) _) fun _ => .host _

/-! ### Queries -/

/-- A query may read the record and the file of the call, ask the node, and show something. -/
def AsksForQuery (ws : Workspace) (package network name : String) : Effect → Prop
  | .host (.read path) =>
    path = ws.recordPath package network ∨ path = ws.callPath package network name
  | .host (.log _) => True
  | .host (.print _) => True
  | .node _ (.query _) => True
  | _ => False

theorem asksForQuery_query (ctx : Context) (package name : String) :
    (ctx.query package name).AsksOnly
      (AsksForQuery ctx.workspace package ctx.network name) := by
  have haddress : (ctx.workspace.address package ctx.network).AsksOnly
      (AsksForQuery ctx.workspace package ctx.network name) :=
    ctx.workspace.asksOnly_address package ctx.network (.inl rfl)
  have hcall : (ctx.workspace.call package ctx.network name).AsksOnly
      (AsksForQuery ctx.workspace package ctx.network name) :=
    ctx.workspace.asksOnly_call package ctx.network name (.inr rfl)
  exact .bind (.mapError _ haddress) fun _ => .bind (.mapError _ hcall) fun _ =>
    .bind (.mapError _ (.bind (.node trivial) fun _ => .orFail _ _)) fun _ =>
      .bind (.host trivial) fun _ => .pure _

theorem asksForQuery_perform {package name : String} (h : cli.command = .query package name) :
    (perform cli config).AsksOnly (AsksForQuery (.ofRoot cli.root config.directory) package
      (cli.endpoint.getD config.endpoint) name) := by
  have hneeds : ¬cli.command.needsSigner = true := by
    rw [h]
    exact Bool.false_ne_true
  rw [perform, h]
  rw [prepare, signerFor, if_neg hneeds]
  simp only [bind_assoc, pure_bind]
  -- The signer is left out, so the context is known as soon as the endpoint is.
  refine .bind (.ofExcept _) fun endpoint => .bind (.host trivial) fun _ => .discard ?_
  let ctx : Context :=
    ⟨cli.endpoint.getD config.endpoint,
      ⟨endpoint.url, endpoint.network, config.patience, config.limits⟩,
      .ofRoot cli.root config.directory, cli.verbose, none⟩
  exact asksForQuery_query ctx package name

/-! ### Usage errors -/

/-- A task makes its first call only when it is ready. At every point of a run of a task that is
not, no call has been made and no file is changed, and the run can end, always with an error.
Carrying out a command never fails for want of a signer, whatever the command line and the
configuration, and a query opens no keystore: it reads the record and the file of the call, and
asks for no password. -/
theorem ready_before_calls :
    (∀ (ctx : Context) (task : Context.Task) (fs fs' : FileSystem) (calls : List Call)
        (q : Program effects (Except Failure task.Result)),
        Reaches FileSystem.rule (task.run ctx).run fs calls q fs' →
          (calls ≠ [] → task.IsReady ctx fs) ∧
          (¬task.IsReady ctx fs → calls = [] ∧ fs' = fs ∧
            (∀ r, q = .done r → ∃ e, r = .error e) ∧
            ∃ e, Reaches FileSystem.rule q fs [] (.done (.error e)) fs)) ∧
      ∀ (cli : CommandLine) (config : Config),
        (∀ {σ : Type} (rule : MachineRule σ) (s t : σ) (calls : List Call)
            (r : Except Failure Unit),
            (perform cli config).Yields rule s calls r t → r ≠ .error .noSigner) ∧
        ∀ package name, cli.command = .query package name →
          (perform cli config).AsksOnly (AsksForQuery (.ofRoot cli.root config.directory) package
            (cli.endpoint.getD config.endpoint) name) := by
  refine ⟨?_, fun cli config => ⟨?_, fun package name => asksForQuery_perform⟩⟩
  · intro ctx task fs fs' calls q h
    refine ⟨fun hcalls => by_contra fun hready => ?_, fun hready => ?_⟩
    · exact hcalls ((Task.refuses_of_not_isReady hready).of_reaches h).1
    · have hrefuses := Task.refuses_of_not_isReady hready
      obtain ⟨hcalls, hfs, herror⟩ := hrefuses.of_reaches h
      exact ⟨hcalls, hfs, herror, hrefuses.exists_error h⟩
  · rintro σ rule s t calls r h rfl
    exact failsOnly_perform.of_yields h rfl

/-- A command line that names no keystore. -/
def keyless : CommandLine :=
  ⟨none, none, none, ".", false, .deploy "j" none⟩

/-- The package was ready when its deployment made a call. A query of it is refused as long as there
is no record. Without a keystore, a deployment fails for want of the keystore, and a query asks
nothing about one. -/
theorem ready_before_calls_workbench :
    (∃ signed, (scribbling.deploy "j" (some 5)).Yields FileSystem.rule workbench
        [taken signed, landedCode] (.ok "cx01") recorded) ∧
      (Task.deploy "j" (some 5)).IsReady scribbling workbench ∧
      ¬(Task.query "j" "go").IsReady scribbling workbench ∧
      (∃ e, ((Task.query "j" "go").run scribbling).Yields FileSystem.rule workbench [] (.error e)
        workbench) ∧
      (perform keyless {}).Yields FileSystem.rule workbench [] (.error .noKeystore) workbench ∧
      Except.error Failure.noKeystore ≠ (.error .noSigner : Except Failure Unit) ∧
      (perform { keyless with command := .query "j" "go" } {}).AsksOnly
        (AsksForQuery (.ofRoot "." "scripts/config") "j" "localhost" "go") := by
  obtain ⟨htask, hcommand⟩ := ready_before_calls
  obtain ⟨signed, hdeploy⟩ := yields_deploy_workbench
  have hunread : ∃ e, workbench.read (scribbling.workspace.recordPath "j" "local") = .error e :=
    ⟨_, rfl⟩
  have hquery : ¬(Task.query "j" "go").IsReady scribbling workbench := by
    rintro ⟨⟨_, _, ⟨_, _, hread, -⟩, -⟩, -⟩
    obtain ⟨e, hunread⟩ := hunread
    exact nomatch hread.symm.trans hunread
  obtain ⟨-, -, -, e, hrefused⟩ := (htask scribbling (.query "j" "go") _ _ _ _ (.refl _ _)).2 hquery
  have hendpoint : (Action.ofExcept (Config.requireEndpoint {} "localhost")).Yields FileSystem.rule
      workbench [] (.ok ⟨"http://localhost:9082", 3⟩) workbench := .refl _ _
  have hprepare : (prepare keyless {}).Yields FileSystem.rule workbench []
      (.error .noKeystore) workbench :=
    hendpoint.bind_silent (Action.yields_log_bind FileSystem.mayIdle_rule.mayLog (.refl _ _))
  have hkeystore : (perform keyless {}).Yields FileSystem.rule workbench []
      (.error .noKeystore) workbench :=
    Action.yields_bind.mpr (.inl ⟨_, hprepare, rfl⟩)
  refine ⟨⟨signed, hdeploy⟩, ?_, hquery, ⟨e, hrefused⟩, hkeystore, ?_, ?_⟩
  · exact (htask scribbling (.deploy "j" (some 5)) _ _ _ _ hdeploy).1 (List.cons_ne_nil _ _)
  · exact (hcommand keyless {}).1 _ _ _ _ _ hkeystore
  · exact (hcommand { keyless with command := .query "j" "go" } {}).2 "j" "go" rfl

end Run

end ScoreDeploy
