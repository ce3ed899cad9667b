import ScoreDeploy.Command.Context

/-!
# Calling contracts

A call file names a method of a deployed package. It can be run as a transaction, which may change
the contract and costs money, or as a query, which does neither.
-/

namespace ScoreDeploy.Context

/-- Runs a call file as a transaction and prints its receipt. -/
def invoke (ctx : Context) (package name : String) (limit : Option UInt64) : Step Receipt := do
  let signer ← ctx.requireSigner
  let address ← onWorkspace (ctx.workspace.address package ctx.network)
  let call ← onWorkspace (ctx.workspace.call package ctx.network name)
  let hash ← onNode
    (Submission.invoke ctx.terms signer address call.method call.params limit call.value)
  let receipt ← ctx.confirm hash
  Action.print receipt.toJson.pretty
  return receipt

/-- Runs a call file as a query and prints the answer. -/
def query (ctx : Context) (package name : String) : Step Json := do
  let address ← onWorkspace (ctx.workspace.address package ctx.network)
  let call ← onWorkspace (ctx.workspace.call package ctx.network name)
  let answer ← onNode (Submission.query ctx.terms address call.method call.params)
  Action.print answer.pretty
  return answer

end ScoreDeploy.Context
