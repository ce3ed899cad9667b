import ScoreDeploy.Command.Context
import ScoreDeploy.Endpoint
import ScoreDeploy.Keystore.Store

/-!
# Moving money

Money is sent to one address, or, on a local network, to new accounts whose keys are then kept: in
keystore files, or by printing them.
-/

namespace ScoreDeploy.Context

/-- Sends money to an address and waits for the receipt. -/
def transfer (ctx : Context) (recipient : String) (amount : Loop) (limit : Option UInt64) :
    Step Receipt := do
  if ¬Address.isValid recipient then throw (.badRecipient recipient)
  let signer ← ctx.requireSigner
  let money := Loop.format amount ++ " ICX to " ++ recipient
  Action.log ⟨.info, .payment, "Transferring " ++ money ++ " ...", []⟩
  let hash ← onNode (Submission.transfer ctx.terms signer recipient amount limit)
  let receipt ← ctx.confirm hash
  Action.print ("Transferred " ++ money)
  Action.print ("TX: " ++ hash)
  return receipt

/-- A new account and the transaction that gave it money. -/
structure FundedAccount where
  wallet : Wallet
  hash : String

/-- Where the keys of new accounts are kept. -/
structure KeyStorage where
  directory : Path
  password : String

/-- Where the keystore file of a wallet lies. -/
def KeyStorage.path (storage : KeyStorage) (wallet : Wallet) : Path :=
  Path.join storage.directory (wallet.address ++ ".json")

/-- Keeps the key of a new account. -/
def keepKey (storage : Option KeyStorage) (wallet : Wallet) : Step Unit := do
  match storage with
  | some storage =>
    let path := storage.path wallet
    onKeystore (wallet.store path storage.password)
    Action.print (wallet.address ++ "  keystore=" ++ path)
  | none => Action.print (wallet.address ++ "  key=" ++ wallet.keyText)

/-- Makes an account, sends it money, and keeps its key once the money has arrived. -/
def fundOne (ctx : Context) (signer : Signer) (amount : Loop) (storage : Option KeyStorage) :
    Step FundedAccount := do
  let wallet := Wallet.ofKey (← Action.host .freshKey)
  let hash ← onNode (Submission.transfer ctx.terms signer wallet.address amount none)
  discard (ctx.confirm hash)
  keepKey storage wallet
  return ⟨wallet, hash⟩

/-- Makes accounts one after another, behind those already `done`, the last one first. -/
def fundMany (ctx : Context) (signer : Signer) (amount : Loop) (storage : Option KeyStorage) :
    Nat → List FundedAccount → Step (List FundedAccount)
  | 0, done => return done.reverse
  | count + 1, done => do
    let account ← ctx.fundOne signer amount storage
    ctx.fundMany signer amount storage count (account :: done)

/-- Makes that many accounts with money on a local network. -/
def fund (ctx : Context) (count : UInt32) (amount : Loop) (storage : Option KeyStorage) :
    Step (List FundedAccount) := do
  if ¬Endpoint.isLocal ctx.network then throw (.notLocal ctx.network)
  let signer ← ctx.requireSigner
  ctx.fundMany signer amount storage count.toNat []

end ScoreDeploy.Context
