import ScoreDeploy.Host
import ScoreDeploy.Receipt

/-!
# Submitting transactions

A transaction is submitted once: its step limit is fixed, by the caller or by an estimate of the
node, it is signed and sent. `confirm` then asks for its outcome until the node knows one, at most
as often as the terms allow, and accepts it only if the transaction succeeded.
-/

namespace ScoreDeploy

/-- How long to wait for the outcome of a transaction. -/
structure Patience where
  /-- How often the outcome is asked for. -/
  attempts : UInt32 := 20
  /-- The seconds between two attempts. -/
  interval : UInt64 := 2
deriving DecidableEq, Repr

/-- The step limits where the caller gives none. -/
structure StepLimits where
  /-- For calls, which are never estimated. -/
  invoke : UInt64 := 1000000000
  /-- For transfers. -/
  transfer : UInt64 := 100000
deriving DecidableEq, Repr

/-- On what terms transactions are submitted. -/
structure Terms where
  /-- The base address of the node. -/
  node : String
  /-- The number of the network. -/
  network : UInt64
  patience : Patience := {}
  limits : StepLimits := {}
deriving DecidableEq, Repr

namespace Submission

/-- Why a transaction has no receipt. -/
inductive Error where
  /-- The node gives no answer. -/
  | node (cause : Node.Error)
  /-- The signer makes no signature. -/
  | unsigned
  /-- There is no outcome after so many attempts; the last reply held this error. -/
  | unavailable (attempts : UInt32) (cause : Json)
  /-- The transaction was executed and did not succeed. -/
  | failed (hash : String) (result : Json)
  /-- The reply about the transaction is no outcome. -/
  | unknown (hash : String) (reply : Json)

/-- The wording of an error. -/
def Error.message : Error → String
  | .node cause => cause.message
  | .unsigned => "the signer made no signature"
  | .unavailable attempts cause =>
    "failed to get transaction result after " ++ Numeral.decimal attempts.toNat ++
      " attempts: " ++ cause.compact
  | .failed hash result => "transaction " ++ hash ++ " failed: " ++ result.compact
  | .unknown hash reply => "unknown response for transaction " ++ hash ++ ": " ++ reply.compact

/-- An event of this part of the program. -/
def event (level : Log.Level) (message : String) (fields : List Log.Field) : Log.Event :=
  ⟨level, .submission, message, fields⟩

/-- A field for a number. -/
def numberField (name : String) (n : Nat) : Log.Field :=
  ⟨name, Numeral.decimal n, false⟩

/-! ### Questions to the node -/

/-- The number of steps that the node thinks a transaction takes. -/
def estimate (terms : Terms) (tx : Transaction) : Action Error UInt64 := do
  Action.orFail .node (← Action.node terms.node (.estimate tx))

/-- Sends a signed transaction and gives the hash that the node reports. -/
def send (terms : Terms) (tx : SignedTransaction) : Action Error String := do
  Action.orFail .node (← Action.node terms.node (.send tx))

/-- The whole reply to the question what became of a transaction. -/
def outcome (terms : Terms) (hash : String) : Action Error Json := do
  Action.orFail .node (← Action.node terms.node (.outcome hash))

/-- The answer to a query. -/
def answer (terms : Terms) (query : Query) : Action Error Json := do
  Action.orFail .node (← Action.node terms.node (.query query))

/-! ### Submitting -/

/-- The step limit that was given, or else the estimate of the node. -/
def stepLimit (terms : Terms) (tx : Transaction) (given : Option UInt64) :
    Action Error UInt64 :=
  match given with
  | some limit => pure limit
  | none => do
    let steps ← estimate terms tx
    Action.log (event .debug "estimated step cost" [numberField "estimate" steps.toNat])
    return steps

/-- Submits a transaction and gives the hash that the node reports. -/
def submit (terms : Terms) (tx : Transaction) (signer : Signer) (given : Option UInt64) :
    Action Error String := do
  let limit ← stepLimit terms tx given
  match tx.sign? limit signer with
  | none => throw .unsigned
  | some signed =>
    let hash ← send terms signed
    if hash ≠ signed.hash then
      Action.log (event .warn "node reported a different transaction hash"
        [⟨"local", signed.hash, false⟩, ⟨"remote", hash, false⟩])
    Action.log (event .info "transaction submitted"
      [⟨"tx_hash", hash, false⟩, numberField "step_limit" limit.toNat])
    return hash

/-- Submits code, to the zero address for a new contract or to the contract that it replaces. -/
def deploy (terms : Terms) (signer : Signer) (recipient contentType : String) (content : Bytes)
    (params : Option Params) (limit : Option UInt64) : Action Error String := do
  let now ← Action.host .now
  let tx := Transaction.empty signer.address recipient terms.network now
  submit terms { tx with payload := some (.ofDeploy contentType content params) } signer limit

/-- Submits the code of a new contract. -/
def install (terms : Terms) (signer : Signer) (contentType : String) (content : Bytes)
    (params : Option Params) (limit : Option UInt64) : Action Error String :=
  deploy terms signer Address.zero contentType content params limit

/-- The announcement of a call; money is mentioned only if some is sent along. -/
def describeCall (method : String) (params : Option Params) (value : Loop) : String :=
  let arguments := Json.compact (.object (params.getD []))
  let money := if value.toNat = 0 then "" else "with " ++ Loop.format value ++ " ICX "
  "Invoking " ++ method ++ "(" ++ arguments ++ ") " ++ money ++ "..."

/-- Submits a call of a method, with money if the value is not zero. -/
def invoke (terms : Terms) (signer : Signer) (recipient method : String)
    (params : Option Params) (limit : Option UInt64) (value : Loop) : Action Error String := do
  Action.log (event .info (describeCall method params value) [])
  let now ← Action.host .now
  let tx := Transaction.empty signer.address recipient terms.network now
  submit terms { tx with value := value, payload := some (.ofCall method params) } signer
    (some (limit.getD terms.limits.invoke))

/-- Submits a transfer of money. -/
def transfer (terms : Terms) (signer : Signer) (recipient : String) (amount : Loop)
    (limit : Option UInt64) : Action Error String := do
  let now ← Action.host .now
  let tx := Transaction.empty signer.address recipient terms.network now
  submit terms { tx with value := amount } signer (some (limit.getD terms.limits.transfer))

/-- Asks a contract without submitting anything. -/
def query (terms : Terms) (recipient method : String) (params : Option Params) :
    Action Error Json :=
  answer terms (.ofCall recipient method params)

/-! ### Confirming -/

/-- What a reply says about a transaction. -/
inductive Outcome where
  /-- Nothing is known yet; the node gives this error. -/
  | pending (cause : Json)
  /-- The transaction was executed with this result. -/
  | done (result : Json)
  /-- The reply says neither. -/
  | unknown (reply : Json)

/-- What a reply says; an error in it goes before a result. -/
def Outcome.ofReply (reply : Json) : Outcome :=
  match reply.member? "error" with
  | some cause => .pending cause
  | none =>
    match reply.member? "result" with
    | some result => .done result
    | none => .unknown reply

/-- Reports a value that ends the wait for an outcome in vain. -/
def reportFailure (title : String) (value : Json) : Action Error Unit :=
  Action.log (event .error (title ++ ": " ++ value.pretty) [])

/-- The receipt that a result holds, if it is that of a success. -/
def accept (hash : String) (verbose : Bool) (result : Json) : Action Error Receipt := do
  match Receipt.ofJson? result with
  | none =>
    reportFailure "Response" result
    throw (.unknown hash result)
  | some receipt =>
    if receipt.succeeded then
      Action.log <|
        if verbose then event .info ("Result: " ++ result.pretty) []
        else event .debug ("Result: " ++ result.compact) []
      return receipt
    else
      reportFailure "Result" result
      throw (.failed hash result)

/-- Asks for the outcome of a transaction, and `later` times more while there is none. -/
def confirmFrom (terms : Terms) (hash : String) (verbose : Bool) (later : Nat) :
    Action Error Receipt := do
  let reply ← outcome terms hash
  match Outcome.ofReply reply with
  | .done result => accept hash verbose result
  | .unknown reply =>
    reportFailure "Response" reply
    throw (.unknown hash reply)
  | .pending cause =>
    match later with
    | 0 =>
      reportFailure "Response" cause
      throw (.unavailable terms.patience.attempts cause)
    | later + 1 =>
      Action.log (event .debug "transaction result not available yet"
        [⟨"tx_hash", hash, true⟩, numberField "remaining" (later + 1)])
      Action.host (.wait terms.patience.interval)
      confirmFrom terms hash verbose later

/-- Waits for the receipt of a transaction. The outcome is asked for once at least. -/
def confirm (terms : Terms) (hash : String) (verbose : Bool) : Action Error Receipt :=
  confirmFrom terms hash verbose (terms.patience.attempts.toNat - 1)

end Submission

end ScoreDeploy
