import ScoreDeploy.Transaction.Signed
import ScoreDeploy.Json.Text

/-!
# Nodes

A node estimates what a transaction costs, takes signed transactions, tells what became of them, and
answers queries. Its answer to a question about a transaction is kept whole, because there a reply
that holds an error means that nothing is known yet. `resultOf` takes any other reply apart.
-/

namespace ScoreDeploy.Node

/-- Why nothing came back over the network. -/
inductive NetworkError where
  /-- The text is no address. -/
  | malformed
  /-- There is no way to post to that address. -/
  | unsupported (url : String)
  /-- Nobody answers at that address. -/
  | unreachable (url : String)
  /-- From that address on, the answers lead on for ever. -/
  | endless (url : String)
  /-- What came back is no JSON. -/
  | unreadable
deriving DecidableEq

/-- The wording of an error of the network. -/
def NetworkError.message : NetworkError → String
  | .malformed => "builder error"
  | .unsupported url => "builder error for url (" ++ url ++ ")"
  | .unreachable url => "error sending request for url (" ++ url ++ ")"
  | .endless url => "error following redirect for url (" ++ url ++ ")"
  | .unreadable => "error decoding response body"

/-- Why a node gives no answer. -/
inductive Error where
  /-- The request to that address failed. -/
  | network (url : String) (cause : NetworkError)
  /-- The node refused the request. -/
  | remote (code : Int) (message : String)
  /-- The reply has none of the known forms. -/
  | invalid (text : String)
deriving DecidableEq

/-- The wording of an error. -/
def Error.message : Error → String
  | .network url cause => "request to " ++ url ++ " failed: " ++ cause.message
  | .remote code message =>
    "JSON-RPC error " ++ Json.integerText code ++ ": " ++ message
  | .invalid text => "unexpected JSON-RPC response: " ++ text

/-- What can be asked of a node. -/
inductive Request where
  /-- How many steps a transaction takes. -/
  | estimate (tx : Transaction)
  /-- To execute a transaction. -/
  | send (tx : SignedTransaction)
  /-- What became of the transaction with that hash. -/
  | outcome (hash : String)
  /-- A call that changes nothing. -/
  | query (query : Query)

/-- What a node answers. -/
def Reply : Request → Type
  | .estimate _ => Except Error UInt64
  | .send _ => Except Error String
  | .outcome _ => Except Error Json
  | .query _ => Except Error Json

/-- The integer that a value is, if it fits 64 bits with a sign. -/
def signedWord? : Json → Option Int
  | .number (.integer n) => if n.toInt ≤ Int64.maxValue.toInt then some n.toInt else none
  | _ => none

/-- The error that the error member of a reply describes. -/
def remoteError (value : Json) : Error :=
  .remote (((value.member? "code").bind signedWord?).getD 0)
    (((value.member? "message").bind Json.string?).getD "unknown error")

/-- The result in a reply, or the error in it, or the whole reply if it holds neither. -/
def resultOf (reply : Json) : Except Error Json :=
  match reply.member? "result" with
  | some result => .ok result
  | none =>
    match reply.member? "error" with
    | some value => .error (remoteError value)
    | none => .error (.invalid reply.compact)

/-- The number of steps in the result of an estimate. -/
def stepsOf (result : Json) : Except Error UInt64 :=
  match result.string? with
  | none => .error (.invalid ("step estimate " ++ result.compact))
  | some text =>
    match HexNumeral.readWord? text with
    | some steps => .ok steps
    | none => .error (.invalid ("expected hex integer, got " ++ Text.quoted text))

/-- The hash in the result of a submission. -/
def hashOf (result : Json) : Except Error String :=
  match result.string? with
  | some hash => .ok hash
  | none => .error (.invalid ("transaction hash " ++ result.compact))

end ScoreDeploy.Node
