import ScoreDeploy.Wallet
import ScoreDeploy.Bytes.Base64
import ScoreDeploy.Transaction.Basic
import ScoreDeploy.Transaction.Canonical

/-!
# Signed transactions

Signing fixes the step limit, takes the digest of the canonical form and adds the signature to the
members that a node is sent.
-/

namespace ScoreDeploy

/-- A transaction with its step limit and signature. -/
structure SignedTransaction where
  /-- What a node is sent. -/
  params : Params
  /-- The most steps that the sender pays for. -/
  stepLimit : UInt64
  /-- The digest that was signed. -/
  digest : Bytes

namespace SignedTransaction

/-- The name under which a node knows the transaction. -/
def hash (tx : SignedTransaction) : String :=
  "0x" ++ Hex.encode tx.digest

end SignedTransaction

/-- The transaction signed under a step limit, if the signer makes a signature. -/
def Transaction.sign? (tx : Transaction) (stepLimit : UInt64) (signer : Signer) :
    Option SignedTransaction := do
  let params := tx.params (some stepLimit)
  let digest := Canonical.digest params
  let signature ← signer.sign? digest
  return {
    params := Json.Members.insert "signature" (.string (Base64.encode signature)) params
    stepLimit := stepLimit
    digest := digest }

end ScoreDeploy
