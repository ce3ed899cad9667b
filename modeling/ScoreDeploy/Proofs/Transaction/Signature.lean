import ScoreDeploy.Proofs.Bytes.Base64
import ScoreDeploy.Proofs.Json.Members
import ScoreDeploy.Proofs.Transaction.CanonicalText
import ScoreDeploy.Transaction.Signed

/-!
# What a signature is about

The digest is taken before the signature is there, and what a node receives has the signature in it.
Both have one canonical form, so that whoever reads the params of a signed transaction finds the
digest, the signature and, from these, the address that signed.
-/

namespace ScoreDeploy

open Json

namespace Canonical

variable {a b params : Params}

/-- The canonical form looks at nothing but the map of the other members. -/
theorem listed_eq_of_toMap_eq (h : ∀ key, key ∉ omitted → toMap a key = toMap b key) :
    listed a = listed b := by
  refine (isSorted_listed a).eq_of_toMap_eq (isSorted_listed b) (fun m hm n hn => ?_) ?_
  · exact (isCanonical_of_mem_listed hm).eq_of_toTree_eq (isCanonical_of_mem_listed hn)
  · funext key
    rw [toMap_listed, toMap_listed]
    split_ifs with hkey
    · rfl
    · exact h key hkey

theorem text_insert_omitted {key : String} (hsorted : Members.IsSorted params)
    (hkey : key ∈ omitted) (value : Json) :
    text (Members.insert key value params) = text params := by
  have hlisted : listed (Members.insert key value params) = listed params := by
    refine listed_eq_of_toMap_eq fun k hk => ?_
    rw [hsorted.toMap_insert, if_neg (ne_of_mem_of_not_mem hkey hk).symm]
  exact congrArg (pushMembers start false) hlisted

end Canonical

/-! ### Members of transactions -/

theorem Json.Members.mem_of_mem_ofList {pairs : Members} {m : String × Json}
    (h : m ∈ Members.ofList pairs) : m ∈ pairs := by
  suffices ∀ members : Members,
      m ∈ pairs.foldl (fun members m => Members.insert m.1 m.2 members) members →
        m ∈ members ∨ m ∈ pairs from (this [] h).resolve_left List.not_mem_nil
  clear h
  intro members h
  induction pairs generalizing members with
  | nil => exact .inl h
  | cons n rest ih =>
    rcases ih _ h with hmem | hmem
    · rcases Members.mem_insert hmem with rfl | hmem
      · exact .inr List.mem_cons_self
      · exact .inl hmem
    · exact .inr (List.mem_cons_of_mem n hmem)

namespace Transaction

variable {tx : Transaction} {limit : Option UInt64}

theorem isSorted_params (tx : Transaction) (limit : Option UInt64) :
    Members.IsSorted (tx.params limit) :=
  Members.isSorted_ofList _

/-- Every member is a text, except for what is carried. -/
theorem mem_params {m : String × Json} (h : m ∈ tx.params limit) :
    m.1 ∈ ["version", "from", "to", "timestamp", "nid", "stepLimit", "value", "nonce", "dataType"] ∧
        (∃ text, m.2 = .string text) ∨
      ∃ payload, tx.payload = some payload ∧ m = ("data", .object payload.data) := by
  have hmem := Members.mem_of_mem_ofList h
  simp only [List.mem_append] at hmem
  rcases hmem with (((hfixed | hlimit) | hvalue) | hnonce) | hpayload
  · left
    simp only [fixedMembers, List.mem_cons, List.not_mem_nil, or_false] at hfixed
    rcases hfixed with rfl | rfl | rfl | rfl | rfl
    all_goals exact ⟨by simp [numeralMember], _, rfl⟩
  · left
    cases limit with
    | none => exact absurd hlimit List.not_mem_nil
    | some limit =>
      obtain rfl := List.mem_singleton.mp hlimit
      exact ⟨by simp [numeralMember], _, rfl⟩
  · left
    rw [valueMembers] at hvalue
    split_ifs at hvalue
    · exact absurd hvalue List.not_mem_nil
    · obtain rfl := List.mem_singleton.mp hvalue
      exact ⟨by simp [numeralMember], _, rfl⟩
  · left
    rw [nonceMembers] at hnonce
    split at hnonce
    · obtain rfl := List.mem_singleton.mp hnonce
      exact ⟨by simp [numeralMember], _, rfl⟩
    · exact absurd hnonce List.not_mem_nil
  · rw [payloadMembers] at hpayload
    split at hpayload
    · rename_i payload hcarried
      rcases List.mem_cons.mp hpayload with rfl | hdata
      · exact .inl ⟨by simp, _, rfl⟩
      · exact .inr ⟨payload, hcarried, List.mem_singleton.mp hdata⟩
    · exact absurd hpayload List.not_mem_nil

/-- A transaction brings no signature and no hash of its own. -/
theorem key_not_mem_omitted {m : String × Json} (h : m ∈ tx.params limit) :
    m.1 ∉ Canonical.omitted := by
  rcases mem_params h with ⟨hkey, -⟩ | ⟨payload, -, rfl⟩
  · intro homitted
    simp only [Canonical.omitted, List.mem_cons, List.not_mem_nil, or_false] at homitted
    rcases homitted with heq | heq <;> simp [heq] at hkey
  · simp [Canonical.omitted]

end Transaction

/-! ### Signed transactions -/

theorem Wallet.length_of_sign? (wallet : Wallet) {digest signature : Bytes}
    (h : wallet.signer.sign? digest = some signature) : signature.length = 65 := by
  obtain ⟨made, -, rfl⟩ := Option.map_eq_some_iff.mp h
  rw [Secp256k1.Signature.toBytes, List.length_append, List.length_append, Bytes.length_ofNatBE,
    Bytes.length_ofNatBE, List.length_singleton]

/-- What a signature makes of a transaction under a step limit, when it is a signature of the
digest. -/
structure SignedTransaction.IsWireForm (signed : SignedTransaction) (tx : Transaction)
    (limit : UInt64) (digest signature : Bytes) : Prop where
  params_eq : signed.params =
    Members.insert "signature" (.string (Base64.encode signature)) (tx.params (some limit))
  /-- No other member is added, removed or changed. -/
  without_eq : Members.without ["signature"] signed.params = tx.params (some limit)
  /-- The digest is that of the final params. -/
  digest_eq : digest = Keccak.sha3 (Bytes.ofText (Canonical.text signed.params))
  /-- A node may add the hash. -/
  text_insert : ∀ hash, Canonical.text (Members.insert "txHash" hash signed.params) =
    Canonical.text signed.params
  sender_eq : Members.get? signed.params "from" = some (.string tx.sender)
  hash_eq : signed.hash = "0x" ++ Hex.encode digest
  stepLimit_eq : signed.stepLimit = limit
  /-- The signature can be read from the params. -/
  signature_eq : ∃ text, Members.get? signed.params "signature" = some (.string text) ∧
    Base64.decode? text = some signature

/-- The address that speaks in the params, as found by one who sees nothing else and can recover
public keys from digests and signatures. -/
def Params.signatory? (recover : Bytes → Bytes → Option Secp256k1.PublicKey) (params : Params) :
    Option String := do
  let text ← (← Members.get? params "signature").string?
  let signature ← Base64.decode? text
  let key ← recover (Canonical.digest params) signature
  return Address.ofPublicKey key

/-- The public key of the wallet is recovered from a signature that it makes of the digest. -/
def Wallet.IsRecoveredBy (wallet : Wallet) (recover : Bytes → Bytes → Option Secp256k1.PublicKey)
    (digest : Bytes) : Prop :=
  ∀ signature, Secp256k1.sign? wallet.key digest = some signature →
    recover digest signature.toBytes = some wallet.key.publicKey

namespace Transaction

variable (tx : Transaction) (limit : UInt64)

/-- The transaction with a signature in its params. -/
def withSignature (signature : Bytes) : SignedTransaction where
  params := Members.insert "signature" (.string (Base64.encode signature)) (tx.params (some limit))
  stepLimit := limit
  digest := Canonical.digest (tx.params (some limit))

theorem sign?_eq_map (signer : Signer) :
    tx.sign? limit signer = (signer.sign? (Canonical.digest (tx.params (some limit)))).map
      (tx.withSignature limit) := by
  rw [sign?]
  cases signer.sign? (Canonical.digest (tx.params (some limit))) with
  | none => rfl
  | some signature => rfl

theorem text_withSignature (signature : Bytes) :
    Canonical.text (tx.withSignature limit signature).params =
      Canonical.text (tx.params (some limit)) :=
  Canonical.text_insert_omitted (tx.isSorted_params (some limit)) (by simp [Canonical.omitted]) _

theorem digest_withSignature (signature : Bytes) :
    Canonical.digest (tx.withSignature limit signature).params =
      Canonical.digest (tx.params (some limit)) :=
  congrArg (fun text => Keccak.sha3 (Bytes.ofText text)) (text_withSignature tx limit signature)

theorem get?_from_withSignature (signature : Bytes) :
    Members.get? (tx.withSignature limit signature).params "from" = some (.string tx.sender) := by
  rw [withSignature, Members.get?_insert, if_neg (by decide), params, Members.get?_ofList]
  have hpayload : Members.get? tx.payloadMembers.reverse "from" = none := by
    refine Members.get?_eq_none ?_
    rw [payloadMembers]
    cases tx.payload <;> simp
  have hnonce : Members.get? tx.nonceMembers.reverse "from" = none := by
    refine Members.get?_eq_none ?_
    rw [nonceMembers]
    cases tx.nonce <;> simp [numeralMember]
  have hvalue : Members.get? tx.valueMembers.reverse "from" = none := by
    refine Members.get?_eq_none ?_
    rw [valueMembers]
    split_ifs <;> simp [numeralMember]
  have hlimit : Members.get? (limitMembers (some limit)).reverse "from" = none := rfl
  simp only [List.reverse_append, Members.get?_append, hpayload, hnonce, hvalue, hlimit,
    Option.none_or]
  rfl

theorem isWireForm_withSignature (signature : Bytes) :
    (tx.withSignature limit signature).IsWireForm tx limit
      (Canonical.digest (tx.params (some limit))) signature := by
  have hsorted := tx.isSorted_params (some limit)
  constructor
  · rfl
  · rw [withSignature, Members.without_insert hsorted, if_pos List.mem_cons_self]
    refine List.filter_eq_self.mpr fun m hm => ?_
    have hkey := key_not_mem_omitted hm
    simp only [Canonical.omitted, List.mem_cons, not_or] at hkey
    simpa using hkey.1
  · rw [text_withSignature]
    rfl
  · intro hash
    exact Canonical.text_insert_omitted hsorted.insert (by simp [Canonical.omitted]) hash
  · exact get?_from_withSignature tx limit signature
  · rfl
  · rfl
  · refine ⟨Base64.encode signature, ?_, Base64.decode?_encode signature⟩
    rw [withSignature, Members.get?_insert, if_pos rfl]

theorem signatory?_withSignature {wallet : Wallet}
    {recover : Bytes → Bytes → Option Secp256k1.PublicKey} {signature : Bytes}
    (hrecover : wallet.IsRecoveredBy recover (Canonical.digest (tx.params (some limit))))
    (h : wallet.signer.sign? (Canonical.digest (tx.params (some limit))) = some signature) :
    Params.signatory? recover (tx.withSignature limit signature).params = some wallet.address := by
  obtain ⟨made, hmade, rfl⟩ := Option.map_eq_some_iff.mp h
  obtain ⟨text, htext, hdecode⟩ := (isWireForm_withSignature tx limit made.toBytes).signature_eq
  rw [Params.signatory?, htext, digest_withSignature, wallet.address_eq]
  simp [Json.string?, hdecode, hrecover _ hmade]

/-- All signers are asked for a signature of one digest, that of the canonical form of what they
sign, and the signature that is put into the params is found there with the digest. A signature of
the sender's wallet has 65 bytes, and when its key can be recovered, the address that is found in
the params is the sender's. -/
theorem sign?_verifiable :
    ∃ (digest : Bytes) (signed : Bytes → SignedTransaction),
      (∀ signer : Signer, tx.sign? limit signer = (signer.sign? digest).map signed) ∧
      (∀ signature, (signed signature).IsWireForm tx limit digest signature) ∧
      ∀ (wallet : Wallet) (recover : Bytes → Bytes → Option Secp256k1.PublicKey),
        wallet.IsRecoveredBy recover digest → tx.sender = wallet.address →
          ∀ signature, wallet.signer.sign? digest = some signature →
            signature.length = 65 ∧
            tx.sign? limit wallet.signer = some (signed signature) ∧
            Params.signatory? recover (signed signature).params = some tx.sender := by
  refine ⟨Canonical.digest (tx.params (some limit)), tx.withSignature limit, ?_, ?_, ?_⟩
  · exact fun signer => sign?_eq_map tx limit signer
  · exact fun signature => isWireForm_withSignature tx limit signature
  · intro wallet recover hrecover hsender signature hsignature
    refine ⟨wallet.length_of_sign? hsignature, ?_, ?_⟩
    · rw [sign?_eq_map, hsignature, Option.map_some]
    · rw [hsender]
      exact signatory?_withSignature tx limit hrecover hsignature

/-- The wallet of the least private key. -/
def leastWallet : Wallet :=
  .ofKey .least

/-- A transfer that the least wallet signs. -/
def leastTransfer : Transaction :=
  empty leastWallet.address Address.zero 1 7

set_option maxRecDepth 100000 in
theorem recover?_sign?_leastTransfer :
    ((Secp256k1.sign? leastWallet.key (Canonical.digest (leastTransfer.params (some 5)))).bind
      fun made => Secp256k1.recover? (Canonical.digest (leastTransfer.params (some 5)))
        made.toBytes) = some leastWallet.key.publicKey := by
  decide +kernel

/-- The least wallet signs a transfer, and its address is found in the params; another signer puts
what it likes. -/
theorem sign?_verifiable_transfer :
    ∃ (digest : Bytes) (signed : Bytes → SignedTransaction) (signature : Bytes),
      leastTransfer.sign? 5 ⟨"", fun _ => some [7]⟩ = some (signed [7]) ∧
      Members.get? (signed [7]).params "signature" = some (.string "Bw==") ∧
      leastWallet.signer.sign? digest = some signature ∧
      leastTransfer.sign? 5 leastWallet.signer = some (signed signature) ∧
      Params.signatory? Secp256k1.recover? (signed signature).params =
        some leastWallet.address := by
  obtain ⟨digest, signed, hsign, hform, hverify⟩ := sign?_verifiable leastTransfer 5
  have hdigest : digest = Canonical.digest (leastTransfer.params (some 5)) := by
    rw [(hform []).digest_eq, (hform []).params_eq, Canonical.text_insert_omitted
      (isSorted_params _ _) (by simp [Canonical.omitted])]
    rfl
  obtain ⟨made, hmade, hrecovered⟩ := Option.bind_eq_some_iff.mp recover?_sign?_leastTransfer
  rw [← hdigest] at hmade hrecovered
  have hsigned : leastWallet.signer.sign? digest = some made.toBytes :=
    congrArg (Option.map Secp256k1.Signature.toBytes) hmade
  have hrecover : leastWallet.IsRecoveredBy Secp256k1.recover? digest := by
    intro other hother
    obtain rfl := Option.some.inj (hmade.symm.trans hother)
    exact hrecovered
  obtain ⟨-, hwire, hfound⟩ := hverify leastWallet _ hrecover rfl made.toBytes hsigned
  refine ⟨digest, signed, made.toBytes, hsign ⟨"", fun _ => some [7]⟩, ?_, hsigned, hwire, hfound⟩
  have htext : Base64.encode [7] = "Bw==" := by decide
  rw [(hform [7]).params_eq, Members.get?_insert, if_pos rfl, htext]

end Transaction

end ScoreDeploy
