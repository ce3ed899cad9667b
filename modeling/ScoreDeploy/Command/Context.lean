import ScoreDeploy.Failure

/-!
# The context of a command

What all commands of a run share: the network they act on, the terms on which transactions are
submitted, the workspace, and whoever signs.
-/

namespace ScoreDeploy

/-- What the commands of a run share. -/
structure Context where
  /-- The name of the network. -/
  network : String
  terms : Terms
  workspace : Workspace
  /-- Whether full results are reported. -/
  verbose : Bool := false
  /-- Who signs transactions, if anybody does. -/
  signer : Option Signer := none

namespace Context

/-- An action of a command. -/
abbrev Step (α : Type) := Action Failure α

/-- The signer, which has to be there. -/
def requireSigner (ctx : Context) : Step Signer :=
  match ctx.signer with
  | some signer => pure signer
  | none => throw .noSigner

/-- A use of the workspace as a step of a command. -/
def onWorkspace {α : Type} (action : Action Workspace.Error α) : Step α :=
  action.mapError .workspace

/-- A use of the node as a step of a command. -/
def onNode {α : Type} (action : Action Submission.Error α) : Step α :=
  action.mapError .submission

/-- A use of a keystore file as a step of a command. -/
def onKeystore {α : Type} (action : Action Keystore.Error α) : Step α :=
  action.mapError .keystore

/-- Waits for the receipt of a transaction. -/
def confirm (ctx : Context) (hash : String) : Step Receipt :=
  onNode (Submission.confirm ctx.terms hash ctx.verbose)

end Context

end ScoreDeploy
