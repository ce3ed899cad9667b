import ScoreDeploy.Command.Deployment
import ScoreDeploy.Command.Invocation
import ScoreDeploy.Command.Payment
import ScoreDeploy.Proofs.Questions
import ScoreDeploy.Proofs.Submission.Params

/-!
# The phases of commands

A command that submits a transaction first looks around and prepares the operation, then submits it
and waits for the receipt, and then does something with the receipt on the machine. Each such
command is shown to be `submitting` its preparation and its finish, so that what holds of the phases
is proved once.
-/

namespace ScoreDeploy.Context

open Submission

/-- An operation that is about to be submitted, and who signs it. -/
structure Prepared where
  signer : Signer
  operation : Operation

/-- Prepares an operation, submits it and waits; gives the hash and the receipt. -/
def confirmed (ctx : Context) (prepare : Step Prepared) : Step (String × Receipt) := do
  let prepared ← prepare
  let hash ← onNode (prepared.operation.perform ctx.terms prepared.signer)
  let receipt ← ctx.confirm hash
  return (hash, receipt)

/-- Prepares an operation, submits it, waits for the receipt, and finishes with it. -/
def submitting {α : Type} (ctx : Context) (prepare : Step Prepared)
    (finish : String → Receipt → Step α) : Step α := do
  let (hash, receipt) ← ctx.confirmed prepare
  finish hash receipt

/-! ### Preparing -/

/-- What a deployment prepares. -/
def prepareDeploy (ctx : Context) (package : String) (limit : Option UInt64) : Step Prepared := do
  let signer ← ctx.requireSigner
  let (path, content) ← onWorkspace (ctx.workspace.artifact package)
  let params ← onWorkspace (ctx.workspace.params package ctx.network)
  Action.log (deploymentEvent ("Deploying " ++ package ++ " from " ++ path ++ " ..."))
  return ⟨signer, .install contentType content (some params) limit⟩

/-- What an update prepares. -/
def prepareUpdate (ctx : Context) (package : String) (limit : Option UInt64) : Step Prepared := do
  let signer ← ctx.requireSigner
  let address ← onWorkspace (ctx.workspace.address package ctx.network)
  let (path, content) ← onWorkspace (ctx.workspace.artifact package)
  let params ← onWorkspace (ctx.workspace.params package ctx.network)
  Action.log (deploymentEvent
    ("Updating " ++ package ++ " at " ++ address ++ " from " ++ path ++ " ..."))
  return ⟨signer, .update address contentType content (some params) limit⟩

/-- What an invocation prepares. -/
def prepareInvoke (ctx : Context) (package name : String) (limit : Option UInt64) :
    Step Prepared := do
  let signer ← ctx.requireSigner
  let address ← onWorkspace (ctx.workspace.address package ctx.network)
  let call ← onWorkspace (ctx.workspace.call package ctx.network name)
  return ⟨signer, .invoke address call.method call.params limit call.value⟩

/-- The announcement of a transfer. -/
def money (recipient : String) (amount : Loop) : String :=
  Loop.format amount ++ " ICX to " ++ recipient

/-- What a transfer prepares. -/
def prepareTransfer (ctx : Context) (recipient : String) (amount : Loop) (limit : Option UInt64) :
    Step Prepared := do
  if ¬Address.isValid recipient then throw (.badRecipient recipient)
  let signer ← ctx.requireSigner
  Action.log ⟨.info, .payment, "Transferring " ++ money recipient amount ++ " ...", []⟩
  return ⟨signer, .transfer recipient amount limit⟩

variable (ctx : Context) (package name recipient : String) (amount : Loop)
variable (limit : Option UInt64)

theorem deploy_eq :
    ctx.deploy package limit =
      ctx.submitting (ctx.prepareDeploy package limit) fun _ => ctx.keepRecord package := by
  simp only [deploy, submitting, confirmed, prepareDeploy, bind_assoc, pure_bind]
  rfl

theorem update_eq :
    ctx.update package limit =
      ctx.submitting (ctx.prepareUpdate package limit) fun _ => ctx.keepRecord package := by
  simp only [update, submitting, confirmed, prepareUpdate, bind_assoc, pure_bind]
  rfl

theorem invoke_eq :
    ctx.invoke package name limit =
      ctx.submitting (ctx.prepareInvoke package name limit) fun _ receipt => do
        Action.print receipt.toJson.pretty
        return receipt := by
  simp only [invoke, submitting, confirmed, prepareInvoke, bind_assoc, pure_bind]
  rfl

theorem transfer_eq :
    ctx.transfer recipient amount limit =
      ctx.submitting (ctx.prepareTransfer recipient amount limit) fun hash receipt => do
        Action.print ("Transferred " ++ money recipient amount)
        Action.print ("TX: " ++ hash)
        return receipt := by
  simp only [transfer, submitting, confirmed, prepareTransfer]
  split
  · rfl
  · simp only [bind_assoc, pure_bind]
    rfl

/-- New accounts get their money one after another, each by a submission of its own. -/
theorem fundOne_eq (signer : Signer) (storage : Option KeyStorage) :
    ctx.fundOne signer amount storage = (do
      let wallet := Wallet.ofKey (← Action.host .freshKey)
      ctx.submitting (pure ⟨signer, .transfer wallet.address amount none⟩) fun hash _ => do
        keepKey storage wallet
        return ⟨wallet, hash⟩) := by
  simp only [fundOne, submitting, confirmed, discard, Functor.discard,
    LawfulFunctor.map_const, Function.comp_apply, map_eq_pure_bind, bind_assoc, pure_bind]
  rfl

/-! ### What the phases ask, and what they give -/

theorem looks_requireSigner : ctx.requireSigner.AsksOnly Effect.Looks := by
  rw [requireSigner]
  split
  · exact .pure _
  · exact .throw _

theorem looks_prepareDeploy : (ctx.prepareDeploy package limit).AsksOnly Effect.Looks :=
  .bind (looks_requireSigner _) fun _ => .bind (.mapError _ (Workspace.looks_artifact _ _)) fun _ =>
    .bind (.mapError _ (Workspace.looks_params _ _ _)) fun _ => .bind (.host trivial) fun _ =>
      .pure _

theorem looks_prepareUpdate : (ctx.prepareUpdate package limit).AsksOnly Effect.Looks :=
  .bind (looks_requireSigner _) fun _ =>
    .bind (.mapError _ (Workspace.looks_address _ _ _)) fun _ =>
      .bind (.mapError _ (Workspace.looks_artifact _ _)) fun _ =>
        .bind (.mapError _ (Workspace.looks_params _ _ _)) fun _ => .bind (.host trivial) fun _ =>
          .pure _

theorem looks_prepareInvoke : (ctx.prepareInvoke package name limit).AsksOnly Effect.Looks :=
  .bind (looks_requireSigner _) fun _ =>
    .bind (.mapError _ (Workspace.looks_address _ _ _)) fun _ =>
      .bind (.mapError _ (Workspace.looks_call _ _ _ _)) fun _ => .pure _

theorem looks_prepareTransfer :
    (ctx.prepareTransfer recipient amount limit).AsksOnly Effect.Looks := by
  rw [prepareTransfer]
  split
  · exact .bind (.throw _) fun _ => .bind (looks_requireSigner _) fun _ =>
      .bind (.host trivial) fun _ => .pure _
  · exact .bind (looks_requireSigner _) fun _ => .bind (.host trivial) fun _ => .pure _

theorem keeps_submit (terms : Terms) (tx : Transaction) (signer : Signer) :
    (submit terms tx signer limit).AsksOnly Effect.Keeps := by
  rw [submit]
  refine .bind ?_ fun limit => ?_
  · cases limit with
    | some limit => exact .pure _
    | none =>
      exact .bind (.bind (.node trivial) fun _ => .orFail _ _) fun _ =>
        .bind (.host trivial) fun _ => .pure _
  · cases tx.sign? limit signer with
    | none => exact .throw _
    | some signed =>
      refine .bind (.bind (.node trivial) fun _ => .orFail _ _) fun hash => ?_
      dsimp only
      split
      · exact .bind (.host trivial) fun _ => .bind (.host trivial) fun _ => .pure _
      · exact .bind (.host trivial) fun _ => .pure _

theorem keeps_perform (terms : Terms) (signer : Signer) (op : Operation) :
    (op.perform terms signer).AsksOnly Effect.Keeps := by
  cases op with
  | invoke =>
    exact .bind (.host trivial) fun _ => .bind (.host trivial) fun _ => keeps_submit _ _ _ _
  | _ => exact .bind (.host trivial) fun _ => keeps_submit _ _ _ _

theorem keeps_accept (hash : String) (verbose : Bool) (result : Json) :
    (accept hash verbose result).AsksOnly Effect.Keeps := by
  rw [accept]
  split
  · exact .bind (.host trivial) fun _ => .throw _
  · split
    · exact .bind (.host trivial) fun _ => .pure _
    · exact .bind (.host trivial) fun _ => .throw _

theorem keeps_confirmFrom (terms : Terms) (hash : String) (verbose : Bool) (later : Nat) :
    (confirmFrom terms hash verbose later).AsksOnly Effect.Keeps := by
  have hask : (outcome terms hash).AsksOnly Effect.Keeps :=
    .bind (.node trivial) fun _ => .orFail _ _
  induction later with
  | zero =>
    rw [confirmFrom]
    refine .bind hask fun reply => ?_
    split
    · exact keeps_accept _ _ _
    · exact .bind (.host trivial) fun _ => .throw _
    · exact .bind (.host trivial) fun _ => .throw _
  | succ later ih =>
    rw [confirmFrom]
    refine .bind hask fun reply => ?_
    split
    · exact keeps_accept _ _ _
    · exact .bind (.host trivial) fun _ => .throw _
    · exact .bind (.host trivial) fun _ => .bind (.host trivial) fun _ => ih

/-- Nothing is done to files before there is a receipt. -/
theorem keeps_confirmed {prepare : Step Prepared} (hlooks : prepare.AsksOnly Effect.Looks) :
    (ctx.confirmed prepare).AsksOnly Effect.Keeps :=
  .bind hlooks.keeps fun _ => .bind (.mapError _ (keeps_perform _ _ _)) fun _ =>
    .bind (.mapError _ (keeps_confirmFrom _ _ _ _)) fun _ => .pure _

theorem ensures_limit_prepareDeploy (ceilings : StepLimits) :
    (ctx.prepareDeploy package limit).Ensures fun p => p.operation.limit ceilings = limit :=
  .bind fun _ => .bind fun _ => .bind fun _ => .bind fun _ => .pure rfl

theorem ensures_limit_prepareUpdate (ceilings : StepLimits) :
    (ctx.prepareUpdate package limit).Ensures fun p => p.operation.limit ceilings = limit :=
  .bind fun _ => .bind fun _ => .bind fun _ => .bind fun _ => .bind fun _ => .pure rfl

theorem ensures_limit_prepareInvoke (ceilings : StepLimits) :
    (ctx.prepareInvoke package name limit).Ensures fun p =>
      p.operation.limit ceilings = some (limit.getD ceilings.invoke) :=
  .bind fun _ => .bind fun _ => .bind fun _ => .pure rfl

theorem ensures_limit_prepareTransfer (ceilings : StepLimits) :
    (ctx.prepareTransfer recipient amount limit).Ensures fun p =>
      p.operation.limit ceilings = some (limit.getD ceilings.transfer) := by
  rw [prepareTransfer]
  split
  · exact .bind fun _ => .bind fun _ => .bind fun _ => .pure rfl
  · exact .bind fun _ => .bind fun _ => .pure rfl

theorem isHost_keepRecord (receipt : Receipt) :
    (ctx.keepRecord package receipt).AsksOnly Effect.IsHost := by
  rw [keepRecord]
  split
  · exact .throw _
  · exact .bind (.mapError _ (Workspace.isHost_saveRecord _ _ _ _)) fun _ =>
      .bind (.host trivial) fun _ => .bind (.host trivial) fun _ => .pure _

theorem isHost_keepKey (storage : Option KeyStorage) (wallet : Wallet) :
    (keepKey storage wallet).AsksOnly Effect.IsHost := by
  cases storage with
  | some storage => exact .bind (.mapError _ (Wallet.isHost_store _ _ _)) fun _ => .host trivial
  | none => exact .host trivial

end ScoreDeploy.Context
