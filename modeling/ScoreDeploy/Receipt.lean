import ScoreDeploy.Json.Shape
import ScoreDeploy.Json.Text

/-!
# Receipts

The receipt of a transaction tells whether it succeeded and, for a deployment, where the contract
landed. All other members that the node put into it are kept, so that a receipt can be written out
in full.
-/

namespace ScoreDeploy

/-- What a node says about an executed transaction. -/
structure Receipt where
  /-- The outcome. -/
  status : String
  /-- The address of the deployed contract. -/
  contract : Option String
  /-- The hash of the transaction. -/
  hash : Option String
  /-- All other members. -/
  others : Json.Members

namespace Receipt

/-- The status of a transaction that succeeded. -/
def success : String := "0x1"

/-- Whether the transaction succeeded. -/
def succeeded (receipt : Receipt) : Bool :=
  receipt.status == success

/-- The members that a receipt gives a meaning to. -/
def knownKeys : List String := ["status", "scoreAddress", "txHash"]

/-- The form of a receipt in a file. -/
def shape : Json.Shape :=
  .openRecord
    [(⟨"status", [], true⟩, .text), (⟨"scoreAddress", [], false⟩, .optional .text),
      (⟨"txHash", [], false⟩, .optional .text)]

/-- The text of a member that may be null or missing; `none` if it is anything else. -/
def optionalText? (members : Json.Members) (key : String) : Option (Option String) :=
  match Json.Members.get? members key with
  | none => some none
  | some .null => some none
  | some (.string s) => some (some s)
  | some _ => none

/-- The receipt that a value holds. -/
def ofJson? (value : Json) : Option Receipt :=
  match value with
  | .object members => do
    let status ← (← Json.Members.get? members "status").string?
    let contract ← optionalText? members "scoreAddress"
    let hash ← optionalText? members "txHash"
    return ⟨status, contract, hash, Json.Members.without knownKeys members⟩
  | _ => none

/-- The receipt that a text holds. -/
def read (text : String) : Except Json.Fault Receipt := do
  let value ← Json.readAs shape text
  match ofJson? value.canonical with
  | some receipt => return receipt
  | none => throw .wrongType

/-- A member for a text, if there is one. -/
def textMember (key : String) (s : Option String) : Json.Members :=
  match s with
  | some s => [(key, .string s)]
  | none => []

/-- The receipt as a JSON object whose known members come first. -/
def toJson (receipt : Receipt) : Json :=
  .object (("status", .string receipt.status) :: textMember "scoreAddress" receipt.contract ++
    textMember "txHash" receipt.hash ++ receipt.others)

end Receipt

end ScoreDeploy
