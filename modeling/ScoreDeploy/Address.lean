import ScoreDeploy.Crypto.Secp256k1
import ScoreDeploy.Crypto.Keccak
import ScoreDeploy.Bytes.Hex

/-!
# Addresses

An address is written as two letters, `hx` for an account and `cx` for a contract, followed by
twenty bytes in lowercase hexadecimal. The address of an account is a digest of its public key.
-/

namespace ScoreDeploy.Address

/-- The address to which every new contract is sent. -/
def zero : String := "cx0000000000000000000000000000000000000000"

/-- The digits that an address is written with. -/
def isDigit (c : Char) : Bool :=
  ('0' ≤ c && c ≤ '9') || ('a' ≤ c && c ≤ 'f')

/-- Whether the characters after the two letters are those of an address. -/
def isBody (cs : List Char) : Bool :=
  cs.length == 40 && cs.all isDigit

/-- Whether the text is an address of either kind. -/
def isValid (text : String) : Bool :=
  match text.toList with
  | 'h' :: 'x' :: body => isBody body
  | 'c' :: 'x' :: body => isBody body
  | _ => false

/-- The address of the account that a public key controls: the last twenty bytes of the digest of
the key's coordinates. -/
def ofPublicKey (key : Secp256k1.PublicKey) : String :=
  "hx" ++ Hex.encode ((Keccak.sha3 key.coordinateBytes).drop 12)

end ScoreDeploy.Address
