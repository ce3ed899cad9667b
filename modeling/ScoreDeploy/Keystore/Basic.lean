import ScoreDeploy.Bytes.Hex
import ScoreDeploy.FileSystem.Basic
import ScoreDeploy.Json.Shape
import ScoreDeploy.Json.Text

/-!
# Keystore files

A keystore file holds a private key, encrypted under a key that is derived from a password, together
with what is needed to derive that key again. The file is JSON. `read` accepts a byte order mark in
front, members in any order and unknown members; the parameters of the derivation tell by their
form, not by the name beside them, which derivation is meant.
-/

namespace ScoreDeploy

/-- How a key is derived from a password. -/
inductive Derivation where
  /-- By scrypt, with `rows` rows, a block factor and a number of lanes. -/
  | scrypt (length : UInt64) (rows : UInt64) (blockFactor lanes : UInt32) (salt : String)
  /-- By PBKDF2 with a pseudorandom function of that name. -/
  | pbkdf2 (iterations : UInt32) (length : UInt64) (function : String) (salt : String)
deriving DecidableEq, Repr

/-- The encrypted part of a keystore file. Byte strings are in hexadecimal. -/
structure Sealed where
  cipher : String
  iv : String
  ciphertext : String
  /-- The name of the derivation, which is not looked at. -/
  derivationName : String
  derivation : Derivation
  /-- The digest by which a wrong password is told. -/
  mac : String
deriving DecidableEq, Repr

/-- A keystore file. -/
structure Keystore where
  /-- The address that the key is said to control. -/
  address : String
  contents : Sealed
  id : String
  version : UInt32
  coinType : Option String
deriving DecidableEq, Repr

namespace Keystore

/-- Why a keystore file cannot be used. -/
inductive Error where
  /-- An operation on a file fails. -/
  | io (path : Path) (cause : IoError)
  /-- The file is no JSON of the right form. -/
  | json (fault : Json.Fault)
  /-- A byte string is no hexadecimal text. -/
  | hex (cause : Hex.Error)
  /-- The number of rows is no power of two, or is one. -/
  | badRows (rows : UInt64)
  /-- The cost of the derivation is out of its limits. -/
  | badCost
  /-- The initial counter has another length than the cipher asks for. -/
  | badIvLength (length : Nat)
  /-- The cipher is not known. -/
  | unknownCipher (name : String)
  /-- The derived key is too short. -/
  | shortKey (length : UInt64)
  /-- The pseudorandom function is not known. -/
  | unknownFunction (name : String)
  /-- The password is not the one that the file was made with. -/
  | wrongPassword
  /-- What was encrypted is no private key. -/
  | invalidKey
  /-- The key controls another address than the file says. -/
  | addressMismatch (expected actual : String)
deriving DecidableEq

/-- The wording of an error. -/
def Error.message : Error → String
  | .io path cause => "cannot access keystore " ++ path ++ ": " ++ cause.message
  | .json _ => "malformed keystore"
  | .hex cause => "malformed keystore: " ++ cause.message
  | .badRows rows =>
    "malformed keystore: scrypt n=" ++ Numeral.decimal rows.toNat ++ " is not a power of two"
  | .badCost => "malformed keystore: scrypt params: invalid scrypt parameters"
  | .badIvLength length =>
    "malformed keystore: iv must be 16 bytes, got " ++ Numeral.decimal length
  | .unknownCipher name => "unsupported keystore cipher " ++ name
  | .shortKey length =>
    "unsupported keystore derived key length " ++ Numeral.decimal length.toNat
  | .unknownFunction name => "unsupported keystore pbkdf2 prf " ++ name
  | .wrongPassword => "wrong keystore password"
  | .invalidKey => "invalid private key: malformed or out-of-range secret key"
  | .addressMismatch expected actual =>
    "keystore address " ++ expected ++ " does not match its key (" ++ actual ++ ")"

/-! ### Reading -/

/-- The natural number below a limit that a value is. -/
def naturalBelow? (limit : Nat) : Json → Option Nat
  | .number (.integer n) =>
    if 0 ≤ n.toInt ∧ n.toInt < limit then some n.toInt.toNat else none
  | _ => none

/-- The 32-bit number that a value is. -/
def word32? (value : Json) : Option UInt32 :=
  (naturalBelow? UInt32.size value).map UInt32.ofNat

/-- The 64-bit number that a value is. -/
def word64? (value : Json) : Option UInt64 :=
  (naturalBelow? UInt64.size value).map UInt64.ofNat

/-- The parameters of scrypt that an object holds. -/
def scryptOf? (members : Json.Members) : Option Derivation := do
  let length ← word64? (← Json.Members.single? members "dklen")
  let rows ← word64? (← Json.Members.single? members "n")
  let blockFactor ← word32? (← Json.Members.single? members "r")
  let lanes ← word32? (← Json.Members.single? members "p")
  let salt ← (← Json.Members.single? members "salt").string?
  return .scrypt length rows blockFactor lanes salt

/-- The parameters of PBKDF2 that an object holds. -/
def pbkdf2Of? (members : Json.Members) : Option Derivation := do
  let iterations ← word32? (← Json.Members.single? members "c")
  let length ← word64? (← Json.Members.single? members "dklen")
  let function ← (← Json.Members.single? members "prf").string?
  let salt ← (← Json.Members.single? members "salt").string?
  return .pbkdf2 iterations length function salt

/-- The parameters that a value holds; those of scrypt are looked for first. -/
def derivationOf? : Json → Option Derivation
  | .object members => scryptOf? members <|> pbkdf2Of? members
  | _ => none

/-- The form of the encrypted part. -/
def sealedShape : Json.Shape :=
  .record
    [(⟨"cipher", [], true⟩, .text),
      (⟨"cipherparams", [], true⟩, .record [(⟨"iv", [], true⟩, .text)]),
      (⟨"ciphertext", [], true⟩, .text), (⟨"kdf", [], true⟩, .text),
      (⟨"kdfparams", [], true⟩, .passing fun value => (derivationOf? value).isSome),
      (⟨"mac", [], true⟩, .text)]

/-- The form of a keystore file. -/
def shape : Json.Shape :=
  .record
    [(⟨"address", [], true⟩, .text), (⟨"crypto", ["Crypto"], true⟩, sealedShape),
      (⟨"id", [], false⟩, .text), (⟨"version", [], true⟩, .natural UInt32.size),
      (⟨"coinType", [], false⟩, .optional .text)]

/-- The encrypted part that a value holds. -/
def sealedOf? (value : Json) : Option Sealed := do
  let cipher ← (← value.member? "cipher").string?
  let iv ← (← (← value.member? "cipherparams").member? "iv").string?
  let ciphertext ← (← value.member? "ciphertext").string?
  let derivationName ← (← value.member? "kdf").string?
  let derivation ← derivationOf? (← value.member? "kdfparams")
  let mac ← (← value.member? "mac").string?
  return ⟨cipher, iv, ciphertext, derivationName, derivation, mac⟩

/-- The keystore file that a value holds. -/
def ofJson? (value : Json) : Option Keystore := do
  let address ← (← value.member? "address").string?
  let contents ← sealedOf? (← value.member? "crypto")
  let version ← word32? (← value.member? "version")
  return {
    address := address
    contents := contents
    id := ((value.member? "id").bind Json.string?).getD ""
    version := version
    coinType := (value.member? "coinType").bind Json.string? }

/-- A text without the byte order marks in front. -/
def withoutMarks (text : String) : String :=
  String.ofList (text.toList.dropWhile (· == '\ufeff'))

/-- The keystore file that a text holds. -/
def read (text : String) : Except Json.Fault Keystore := do
  match ofJson? (← Json.readAs shape (withoutMarks text)) with
  | some keystore => return keystore
  | none => throw .wrongType

/-! ### Writing -/

/-- The parameters of a derivation as a JSON object. -/
def derivationJson : Derivation → Json
  | .scrypt length rows blockFactor lanes salt =>
    .object [("dklen", .ofWord length), ("n", .ofWord rows),
      ("r", .ofWord blockFactor.toUInt64), ("p", .ofWord lanes.toUInt64),
      ("salt", .string salt)]
  | .pbkdf2 iterations length function salt =>
    .object [("c", .ofWord iterations.toUInt64), ("dklen", .ofWord length),
      ("prf", .string function), ("salt", .string salt)]

/-- The encrypted part as a JSON object. -/
def sealedJson (contents : Sealed) : Json :=
  .object [("cipher", .string contents.cipher),
    ("cipherparams", .object [("iv", .string contents.iv)]),
    ("ciphertext", .string contents.ciphertext), ("kdf", .string contents.derivationName),
    ("kdfparams", derivationJson contents.derivation), ("mac", .string contents.mac)]

/-- The member for the kind of coin, if it is known. -/
def coinTypeMember (coinType : Option String) : Json.Members :=
  match coinType with
  | some name => [("coinType", .string name)]
  | none => []

/-- The keystore file as a JSON object. -/
def toJson (keystore : Keystore) : Json :=
  .object ([("address", .string keystore.address), ("crypto", sealedJson keystore.contents),
    ("id", .string keystore.id), ("version", .ofWord keystore.version.toUInt64)] ++
    coinTypeMember keystore.coinType)

/-- The text of a keystore file. -/
def text (keystore : Keystore) : String :=
  keystore.toJson.pretty

end Keystore

end ScoreDeploy
