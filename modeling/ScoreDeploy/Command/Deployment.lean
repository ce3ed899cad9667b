import ScoreDeploy.Command.Context

/-!
# Deploying and updating packages

Both commands submit the compiled code of a package with the parameters for the network, wait for
the receipt, and record where the contract landed. Updating takes the address from the record of the
last deployment.
-/

namespace ScoreDeploy.Context

/-- The type of the content of compiled contracts. -/
def contentType : String := "application/java"

/-- An event of this part of the program. -/
def deploymentEvent (message : String) : Log.Event :=
  ⟨.info, .deployment, message, []⟩

/-- Records a deployment, prints where the contract landed, and gives that address. -/
def keepRecord (ctx : Context) (package : String) (receipt : Receipt) : Step String := do
  match receipt.contract with
  | none => throw (.noContract package)
  | some address =>
    let path ← onWorkspace (ctx.workspace.saveRecord package ctx.network receipt)
    Action.print (package ++ ": " ++ address)
    Action.print ("Record: " ++ path)
    return address

/-- Deploys a package and gives the address of the new contract. -/
def deploy (ctx : Context) (package : String) (limit : Option UInt64) : Step String := do
  let signer ← ctx.requireSigner
  let (path, content) ← onWorkspace (ctx.workspace.artifact package)
  let params ← onWorkspace (ctx.workspace.params package ctx.network)
  Action.log (deploymentEvent ("Deploying " ++ package ++ " from " ++ path ++ " ..."))
  let hash ← onNode (Submission.install ctx.terms signer contentType content (some params) limit)
  let receipt ← ctx.confirm hash
  ctx.keepRecord package receipt

/-- Replaces the code of a deployed package and gives the address of the contract. -/
def update (ctx : Context) (package : String) (limit : Option UInt64) : Step String := do
  let signer ← ctx.requireSigner
  let address ← onWorkspace (ctx.workspace.address package ctx.network)
  let (path, content) ← onWorkspace (ctx.workspace.artifact package)
  let params ← onWorkspace (ctx.workspace.params package ctx.network)
  Action.log (deploymentEvent
    ("Updating " ++ package ++ " at " ++ address ++ " from " ++ path ++ " ..."))
  let hash ← onNode
    (Submission.deploy ctx.terms signer address contentType content (some params) limit)
  let receipt ← ctx.confirm hash
  ctx.keepRecord package receipt

end ScoreDeploy.Context
