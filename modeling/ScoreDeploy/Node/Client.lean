import ScoreDeploy.Host
import ScoreDeploy.Json.Reader
import ScoreDeploy.Node.Redirect
import ScoreDeploy.Node.Url

/-!
# Talking to a node

A client turns what is asked of nodes into numbered JSON-RPC requests, posts them, and reads the
replies. It needs nothing of the surroundings but somebody who posts.
-/

namespace ScoreDeploy

/-- What can be asked where only the network is left to be reached. -/
inductive Wire where
  /-- To post a text, or only to ask for one. -/
  | send (target : Node.Http.Target) (body : Option String)
  /-- Something that the machine answers. -/
  | host (request : Host.Request)

/-- What is answered: to a message all that came back, if anything did. -/
def Wire.Reply : Wire → Type
  | .send _ _ => Option Bytes
  | .host request => Host.Reply request

/-- The surroundings of a program whose requests are posted. -/
def wires : Interface where
  Request := Wire
  Reply := Wire.Reply

namespace Node

/-! ### Requests as calls -/

namespace Request

/-- The method that is called. -/
def method : Request → String
  | .estimate _ => "debug_estimateStep"
  | .send _ => "icx_sendTransaction"
  | .outcome _ => "icx_getTransactionResult"
  | .query _ => "icx_call"

/-- The params of the call. -/
def params : Request → Params
  | .estimate tx => tx.params none
  | .send tx => tx.params
  | .outcome hash => [("txHash", .string hash)]
  | .query q => q.wireParams

/-- The address that the call is posted to. -/
def url (urls : Urls) : Request → String
  | .estimate _ => urls.debug
  | _ => urls.main

/-- What the whole reply to the call tells, if there is one. -/
def answerIn : (r : Request) → Except Error Json → Reply r
  | .estimate _, reply => (reply.bind resultOf).bind stepsOf
  | .send _, reply => (reply.bind resultOf).bind hashOf
  | .outcome _, reply => reply
  | .query _, reply => reply.bind resultOf

end Request

/-! ### Posting -/

/-- A conversation with a node; the state is the number of the next request. -/
abbrev Talk (α : Type) := StateT UInt64 (Program wires) α

namespace Client

/-- Asks the surroundings. -/
def ask (request : Wire) : Talk (Wire.Reply request) :=
  StateT.lift (Program.request (I := wires) request)

/-- The body of a request. -/
def body (id : UInt64) (method : String) (params : Json) : Json :=
  .object [("id", .ofWord id), ("jsonrpc", .string "2.0"),
    ("method", .string method), ("params", params)]

/-- Sends a message and gives the response. `goal` is the address that was meant at first, and
`left` tells how often the response may lead on. -/
def exchange (goal : String) :
    (left : Nat) → Http.Target → (body : Option String) → Talk (Except NetworkError Response)
  | left, target, body => do
    let reply ← ask (.send target body)
    match reply.bind Response.read? with
    | none => return .error (.unreachable goal)
    | some response =>
      match target.onward? response, left with
      | none, _ => return .ok response
      | some _, 0 => return .error (.endless target.base)
      | some next, left + 1 =>
        match Http.Target.ofRedirect goal target next with
        | .error cause => return .error cause
        | .ok next => exchange goal left next (response.repeated body)

/-- The value in a response. Its status does not matter. -/
def valueIn (response : Response) : Except NetworkError Json :=
  match response.body.bind Bytes.toText? with
  | none => .error .unreadable
  | some text => (Json.read text).mapError fun _ => .unreadable

/-- Posts a request and gives the whole reply. -/
def post (url method : String) (params : Json) : Talk (Except Error Json) := do
  let id ← get
  set (id + 1)
  let fields := [⟨"method", method, true⟩, ⟨"id", Numeral.decimal id.toNat, false⟩]
  ask (.host (.log ⟨.debug, .client, "rpc request", fields⟩))
  match Http.Target.ofText url with
  | .error cause => return .error (.network url cause)
  | .ok target =>
    let response ← exchange target.address maxRedirects target (body id method params).compact
    return (response.bind valueIn).mapError (.network url)

/-- Answers what is asked of a node. -/
def answer (urls : Urls) (r : Node.Request) : Talk (Node.Reply r) := do
  return r.answerIn (← post (r.url urls) r.method (.object r.params))

/-- Answers what is asked of nodes, and passes on what is asked of the machine. -/
def handle (r : Effect) : Talk (Effect.Reply r) :=
  match r with
  | .node base request => answer (.ofBase base) request
  | .host request => ask (.host request)

/-- The program with its requests to nodes posted. -/
def overWire {α : Type} (program : Program effects α) : Program wires α :=
  Prod.fst <$> program.translate (fun r id => (handle r).run id) 1

end Client

end Node

end ScoreDeploy
