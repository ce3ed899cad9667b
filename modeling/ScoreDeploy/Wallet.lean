import ScoreDeploy.Address

/-!
# Wallets and signers

A `Signer` stands for whatever can sign digests for one address. A `Wallet` holds a private key
together with the address that belongs to it, and is the signer that this library provides.
-/

namespace ScoreDeploy

/-- Something that signs digests for an address. -/
structure Signer where
  /-- The address that the signatures speak for. -/
  address : String
  /-- The sixty-five bytes of a signature of a digest, if one can be made. -/
  sign? : Bytes → Option Bytes

/-- A private key and its address. -/
structure Wallet where
  /-- The private key. -/
  key : Secp256k1.PrivateKey
  /-- The address of the account that the key controls. -/
  address : String
  /-- The address is derived from the key. -/
  address_eq : address = Address.ofPublicKey key.publicKey

namespace Wallet

/-- The wallet of a private key. -/
def ofKey (key : Secp256k1.PrivateKey) : Wallet :=
  ⟨key, Address.ofPublicKey key.publicKey, rfl⟩

/-- The wallet whose private key has these bytes, if they are those of a private key. -/
def ofBytes? (bytes : Bytes) : Option Wallet :=
  (Secp256k1.PrivateKey.ofBytes? bytes).map ofKey

/-- The private key in hexadecimal. -/
def keyText (wallet : Wallet) : String :=
  Hex.encode wallet.key.toBytes

/-- The wallet as a signer. -/
def signer (wallet : Wallet) : Signer where
  address := wallet.address
  sign? digest := (Secp256k1.sign? wallet.key digest).map Secp256k1.Signature.toBytes

end Wallet

end ScoreDeploy
