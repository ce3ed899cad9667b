import ScoreDeploy.Host
import ScoreDeploy.Keystore.Cipher

/-!
# Loading and storing wallets

`load` opens a keystore file and checks that the key in it controls the address that the file names;
`store` writes a wallet into a new file.
-/

namespace ScoreDeploy

namespace Keystore

/-- The keystore file at a path. -/
def fetch (path : Path) : Action Error Keystore := do
  match (← Action.host (.read path) : Except IoError Bytes) with
  | .error cause => throw (.io path cause)
  | .ok bytes =>
    match Bytes.toText? bytes with
    | none => throw (.io path .invalidText)
    | some text => Action.orFail .json (read text)

/-- Writes a keystore file and makes its directory. Every error names the file. -/
def save (path : Path) (keystore : Keystore) : Action Error Unit := do
  match path.parent? with
  | some parent => Action.orFail (.io path) (← Action.host (.makeDirectories parent))
  | none => pure ()
  Action.orFail (.io path) (← Action.host (.write path (Bytes.ofText keystore.text)))

/-- Random bytes as an identifier: thirty-two digits in five groups, with the marks of a random
identifier in the third and the fourth. -/
def identifier (random : Bytes) : String :=
  let marked := random.mapIdx fun i b =>
    if i = 6 then (b &&& 0x0F) ||| 0x40 else if i = 8 then (b &&& 0x3F) ||| 0x80 else b
  let group start length := Hex.encode ((marked.drop start).take length)
  String.intercalate "-" [group 0 4, group 4 2, group 6 2, group 8 2, group 10 6]

/-- A new keystore file for a secret. -/
def create (secret : Bytes) (address password : String) : Action Error Keystore := do
  let salt ← Action.host (.randomBytes 32)
  let iv ← Action.host (.randomBytes 16)
  let contents ←
    Action.ofExcept (sealWith (newDerivation salt.toList) iv.toList secret password)
  let random ← Action.host (.randomBytes 16)
  return ⟨address, contents, identifier random.toList, 3, some "icx"⟩

end Keystore

namespace Wallet

/-- The wallet that an opened keystore file holds, if its key controls the address of the file. -/
def ofSecret (keystore : Keystore) (secret : Bytes) : Except Keystore.Error Wallet :=
  match ofBytes? secret with
  | none => .error .invalidKey
  | some wallet =>
    if wallet.address = keystore.address then .ok wallet
    else .error (.addressMismatch keystore.address wallet.address)

/-- The wallet in a keystore file, given the password. -/
def unlock (keystore : Keystore) (password : String) : Except Keystore.Error Wallet := do
  ofSecret keystore (← Keystore.openWith keystore.contents password)

/-- The wallet in the keystore file at a path. -/
def load (path : Path) (password : String) : Action Keystore.Error Wallet := do
  let keystore ← Keystore.fetch path
  Action.ofExcept (unlock keystore password)

/-- Writes a wallet into a new keystore file. -/
def store (wallet : Wallet) (path : Path) (password : String) : Action Keystore.Error Unit := do
  let keystore ← Keystore.create wallet.key.toBytes wallet.address password
  Keystore.save path keystore

end Wallet

end ScoreDeploy
