import ScoreDeploy.Crypto.Aes
import ScoreDeploy.Crypto.Keccak
import ScoreDeploy.Crypto.Scrypt
import ScoreDeploy.Keystore.Basic

/-!
# Sealing and opening

A secret is encrypted under the first sixteen bytes of the derived key; the next sixteen, followed
by the ciphertext, give a digest by which a wrong password is told. `sealWith` and `openWith` do
this in both directions.
-/

namespace ScoreDeploy.Keystore

/-- The only cipher in use. -/
def cipherName : String := "aes-128-ctr"

/-- The bytes that a derived key must have. -/
def keyLength : Nat := 32

/-- The only pseudorandom function in use. -/
def functionName : String := "hmac-sha256"

/-- Whether a number is a power of two and not one. -/
def isRowCount (rows : Nat) : Bool :=
  2 ≤ rows && 1 <<< Nat.log2 rows == rows

/-- The scrypt key for a password. -/
def scryptKey (password salt : Bytes) (length rows : UInt64) (blockFactor lanes : UInt32) :
    Except Error Bytes :=
  let cost : Scrypt.Cost := ⟨Nat.log2 rows.toNat, blockFactor.toNat, lanes.toNat⟩
  if ¬isRowCount rows.toNat then .error (.badRows rows)
  else if cost.Allows length.toNat then .ok (Scrypt.scrypt cost password salt length.toNat)
  else .error .badCost

/-- The bytes that a text gives in hexadecimal. -/
def hexBytes (text : String) : Except Error Bytes :=
  (Hex.decode text).mapError .hex

/-- Checks that a derived key is long enough. -/
def checkLength (length : UInt64) : Except Error Unit :=
  if length.toNat < keyLength then .error (.shortKey length) else .ok ()

/-- The key that is derived from a password. -/
def deriveKey (derivation : Derivation) (password : String) : Except Error Bytes := do
  match derivation with
  | .scrypt length rows blockFactor lanes salt =>
    let salt ← hexBytes salt
    checkLength length
    scryptKey (Bytes.ofText password) salt length rows blockFactor lanes
  | .pbkdf2 iterations length function salt =>
    let salt ← hexBytes salt
    checkLength length
    if function ≠ functionName then throw (.unknownFunction function)
    return Sha256.pbkdf2 (Bytes.ofText password) salt iterations.toNat length.toNat

/-- The part of a derived key that encrypts. -/
def cipherKey (derived : Bytes) : Bytes :=
  derived.take 16

/-- The digest by which a wrong password is told. -/
def mac (derived ciphertext : Bytes) : String :=
  Hex.encode (Keccak.keccak ((derived.drop 16).take 16 ++ ciphertext))

/-- A letter between `A` and `Z` as its small form. -/
def lowercase (text : String) : List Char :=
  text.toList.map Char.toLower

/-- Whether two texts agree but for the case of ASCII letters. -/
def sameLetters (a b : String) : Bool :=
  lowercase a == lowercase b

/-- What a keystore file encrypts, given the password. -/
def openWith (contents : Sealed) (password : String) : Except Error Bytes := do
  if contents.cipher ≠ cipherName then throw (.unknownCipher contents.cipher)
  let derived ← deriveKey contents.derivation password
  let ciphertext ← hexBytes contents.ciphertext
  if ¬sameLetters (mac derived ciphertext) contents.mac then throw .wrongPassword
  let iv ← hexBytes contents.iv
  if iv.length ≠ 16 then throw (.badIvLength iv.length)
  return Aes.ctr (cipherKey derived) iv ciphertext

/-- The name of a derivation. -/
def derivationName : Derivation → String
  | .scrypt .. => "scrypt"
  | .pbkdf2 .. => "pbkdf2"

/-- A secret encrypted under a password. -/
def sealWith (derivation : Derivation) (iv secret : Bytes) (password : String) :
    Except Error Sealed := do
  let derived ← deriveKey derivation password
  if iv.length ≠ 16 then throw (.badIvLength iv.length)
  let ciphertext := Aes.ctr (cipherKey derived) iv secret
  return {
    cipher := cipherName
    iv := Hex.encode iv
    ciphertext := Hex.encode ciphertext
    derivationName := derivationName derivation
    derivation := derivation
    mac := mac derived ciphertext }

/-- The derivation for new keystore files. -/
def newDerivation (salt : Bytes) : Derivation :=
  .scrypt 32 16384 8 1 (Hex.encode salt)

end ScoreDeploy.Keystore
