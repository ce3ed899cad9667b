import ScoreDeploy.Address
import ScoreDeploy.Amount
import ScoreDeploy.Transaction.Parameters

/-!
# Transactions

A transaction moves money from one address to another and may carry a payload: a call of a method,
or code to be deployed. `params` is what a node is asked to execute, as the members of a JSON
object, with every number written as a hexadecimal numeral.
-/

namespace ScoreDeploy

/-- What a transaction carries besides money. -/
inductive Payload where
  /-- A call of a method. -/
  | call (method : String) (params : Option Params)
  /-- Code for a contract and the parameters of its constructor. -/
  | deploy (contentType : String) (content : Bytes) (params : Option Params)

namespace Payload

/-- A call with its parameters in wire form. -/
def ofCall (method : String) (params : Option Params) : Payload :=
  .call method (params.map Params.wireForm)

/-- A deployment with its parameters in wire form. -/
def ofDeploy (contentType : String) (content : Bytes) (params : Option Params) : Payload :=
  .deploy contentType content (params.map Params.wireForm)

/-- The member for parameters, if there are any. -/
def paramsMember (params : Option Params) : Json.Members :=
  match params with
  | some params => [("params", .object params)]
  | none => []

/-- The name of a payload's kind. -/
def kind : Payload → String
  | .call .. => "call"
  | .deploy .. => "deploy"

/-- The description of a payload as a JSON object. -/
def data : Payload → Json.Members
  | .call method params => ("method", .string method) :: paramsMember params
  | .deploy contentType content params =>
    ("content", .string ("0x" ++ Hex.encode content)) ::
      ("contentType", .string contentType) :: paramsMember params

end Payload

/-- A transaction that is not yet signed. -/
structure Transaction where
  /-- The address that pays. -/
  sender : String
  /-- The address that receives the money and the payload. -/
  recipient : String
  /-- The number of the network. -/
  network : UInt64
  /-- The money moved. -/
  value : Loop
  /-- An arbitrary number that tells transactions apart. -/
  nonce : Option Quantity
  /-- Microseconds since the start of 1970. -/
  timestamp : Int64
  /-- What is carried. -/
  payload : Option Payload

namespace Transaction

/-- A transaction at a given time that carries nothing. -/
def empty (sender recipient : String) (network : UInt64) (timestamp : Int64) : Transaction where
  sender := sender
  recipient := recipient
  network := network
  value := .zero
  nonce := none
  timestamp := timestamp
  payload := none

/-- A member whose value is a numeral. -/
def numeralMember (key : String) (n : Nat) : String × Json :=
  (key, .string (HexNumeral.write n))

/-- The members that are always there. -/
def fixedMembers (tx : Transaction) : List (String × Json) :=
  [("version", .string "0x3"), ("from", .string tx.sender), ("to", .string tx.recipient),
    numeralMember "timestamp" tx.timestamp.toUInt64.toNat,
    numeralMember "nid" tx.network.toNat]

/-- The members for the money moved; none if there is no money. -/
def valueMembers (tx : Transaction) : List (String × Json) :=
  if tx.value.toNat = 0 then [] else [numeralMember "value" tx.value.toNat]

/-- The members for the nonce. -/
def nonceMembers (tx : Transaction) : List (String × Json) :=
  match tx.nonce with
  | some nonce => [numeralMember "nonce" nonce.toNat]
  | none => []

/-- The members for the payload. -/
def payloadMembers (tx : Transaction) : List (String × Json) :=
  match tx.payload with
  | some payload => [("dataType", .string payload.kind), ("data", .object payload.data)]
  | none => []

/-- The members for a step limit. -/
def limitMembers (stepLimit : Option UInt64) : List (String × Json) :=
  match stepLimit with
  | some limit => [numeralMember "stepLimit" limit.toNat]
  | none => []

/-- What a node is asked to execute. Without a step limit it is what a node estimates the cost
of. -/
def params (tx : Transaction) (stepLimit : Option UInt64) : Params :=
  Json.Members.ofList
    (tx.fixedMembers ++ limitMembers stepLimit ++ tx.valueMembers ++ tx.nonceMembers ++
      tx.payloadMembers)

end Transaction

/-- A call that changes nothing and needs no signature. -/
structure Query where
  /-- The address that asks. -/
  sender : Option String
  /-- The contract that is asked. -/
  recipient : String
  method : String
  params : Option Params

namespace Query

/-- A query on nobody's behalf, its parameters in wire form. -/
def ofCall (recipient method : String) (params : Option Params) : Query where
  sender := none
  recipient := recipient
  method := method
  params := params.map Params.wireForm

/-- The members for the address that asks. -/
def senderMembers (query : Query) : List (String × Json) :=
  match query.sender with
  | some sender => [("from", .string sender)]
  | none => []

/-- What a node is asked. -/
def wireParams (query : Query) : Params :=
  Json.Members.ofList
    (query.senderMembers ++
      [("to", .string query.recipient), ("dataType", .string "call"),
        ("data", .object (Payload.data (.call query.method query.params)))])

end Query

end ScoreDeploy
