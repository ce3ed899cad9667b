import Mathlib.Tactic.Ring
import ScoreDeploy.Proofs.Bytes.Hex
import ScoreDeploy.Proofs.Except
import ScoreDeploy.Proofs.Keystore.Cipher

/-!
# Opening what was sealed

`Derives` says which key a password gives, and `Opening` what a password and an encrypted part must
have in common for the password to open it. Both tell everything that is checked. What was sealed is
opened with the password that it was sealed with.
-/

namespace ScoreDeploy

namespace Keystore

variable {contents : Sealed} {derivation : Derivation} {password : String}
variable {derived iv secret : Bytes}

/-! ### Derived keys -/

theorem hexBytes_eq_ok_iff {text : String} {bs : Bytes} :
    hexBytes text = .ok bs ↔ Hex.decode text = .ok bs :=
  Except.mapError_eq_ok_iff

theorem checkLength_eq_ok_iff {length : UInt64} :
    checkLength length = .ok () ↔ 32 ≤ length.toNat := by
  rw [checkLength, keyLength]
  by_cases h : length.toNat < 32
  · rw [if_pos h]
    constructor
    · intro hok
      cases hok
    · intro hle
      omega
  · rw [if_neg h]
    exact ⟨fun _ => Nat.le_of_not_lt h, fun _ => rfl⟩

theorem isRowCount_iff {rows : Nat} : isRowCount rows = true ↔ ∃ k, 0 < k ∧ rows = 2 ^ k := by
  rw [isRowCount, Bool.and_eq_true, decide_eq_true_iff, beq_iff_eq, Nat.one_shiftLeft]
  constructor
  · rintro ⟨hle, hrows⟩
    refine ⟨Nat.log2 rows, Nat.pos_of_ne_zero fun hzero => ?_, hrows.symm⟩
    rw [hzero] at hrows
    omega
  · rintro ⟨k, hk, rfl⟩
    rw [Nat.log2_two_pow]
    exact ⟨Nat.le_self_pow (Nat.ne_of_gt hk) 2, rfl⟩

/-- The key that a password gives. -/
inductive Derives (password : String) : Derivation → Bytes → Prop
  | scrypt {length rows : UInt64} {blockFactor lanes : UInt32} {salt : String} {bytes : Bytes}
      {k : Nat} :
      Hex.decode salt = .ok bytes → 32 ≤ length.toNat → 0 < k → rows.toNat = 2 ^ k →
      Scrypt.Cost.Allows ⟨k, blockFactor.toNat, lanes.toNat⟩ length.toNat →
      Derives password (.scrypt length rows blockFactor lanes salt)
        (Scrypt.scrypt ⟨k, blockFactor.toNat, lanes.toNat⟩ (Bytes.ofText password) bytes
          length.toNat)
  | pbkdf2 {iterations : UInt32} {length : UInt64} {salt : String} {bytes : Bytes} :
      Hex.decode salt = .ok bytes → 32 ≤ length.toNat →
      Derives password (.pbkdf2 iterations length "hmac-sha256" salt)
        (Sha256.pbkdf2 (Bytes.ofText password) bytes iterations.toNat length.toNat)

theorem scryptKey_eq_ok_iff {salt : Bytes} {length rows : UInt64} {blockFactor lanes : UInt32} :
    scryptKey (Bytes.ofText password) salt length rows blockFactor lanes = .ok derived ↔
      ∃ k, 0 < k ∧ rows.toNat = 2 ^ k ∧
        Scrypt.Cost.Allows ⟨k, blockFactor.toNat, lanes.toNat⟩ length.toNat ∧
        derived = Scrypt.scrypt ⟨k, blockFactor.toNat, lanes.toNat⟩ (Bytes.ofText password) salt
          length.toNat := by
  rw [scryptKey]
  constructor
  · intro h
    split_ifs at h with hrows hcost
    obtain ⟨k, hk, hpow⟩ := isRowCount_iff.mp hrows
    rw [hpow, Nat.log2_two_pow] at h hcost
    exact ⟨k, hk, hpow, hcost, (Except.ok.inj h).symm⟩
  · rintro ⟨k, hk, hpow, hcost, rfl⟩
    have hrows : isRowCount rows.toNat = true := isRowCount_iff.mpr ⟨k, hk, hpow⟩
    rw [if_neg (not_not_intro hrows), hpow, Nat.log2_two_pow, if_pos hcost]

theorem deriveKey_eq_ok_iff :
    deriveKey derivation password = .ok derived ↔ Derives password derivation derived := by
  constructor
  · intro h
    cases derivation with
    | scrypt length rows blockFactor lanes salt =>
      obtain ⟨bytes, hsalt, h⟩ := Except.bind_eq_ok_iff.mp h
      obtain ⟨_, hlength, h⟩ := Except.bind_eq_ok_iff.mp h
      obtain ⟨k, hk, hrows, hcost, rfl⟩ := scryptKey_eq_ok_iff.mp h
      exact .scrypt (hexBytes_eq_ok_iff.mp hsalt) (checkLength_eq_ok_iff.mp hlength) hk hrows hcost
    | pbkdf2 iterations length function salt =>
      obtain ⟨bytes, hsalt, h⟩ := Except.bind_eq_ok_iff.mp h
      obtain ⟨_, hlength, h⟩ := Except.bind_eq_ok_iff.mp h
      by_cases hfunction : function = functionName
      · subst hfunction
        obtain rfl := Except.ok.inj h
        exact .pbkdf2 (hexBytes_eq_ok_iff.mp hsalt) (checkLength_eq_ok_iff.mp hlength)
      · dsimp only at h
        rw [if_pos hfunction] at h
        cases h
  · intro h
    cases h with
    | scrypt hsalt hlength hk hrows hcost =>
      refine Except.bind_eq_ok_iff.mpr ⟨_, hexBytes_eq_ok_iff.mpr hsalt, ?_⟩
      refine Except.bind_eq_ok_iff.mpr ⟨(), checkLength_eq_ok_iff.mpr hlength, ?_⟩
      exact scryptKey_eq_ok_iff.mpr ⟨_, hk, hrows, hcost, rfl⟩
    | pbkdf2 hsalt hlength =>
      refine Except.bind_eq_ok_iff.mpr ⟨_, hexBytes_eq_ok_iff.mpr hsalt, ?_⟩
      exact Except.bind_eq_ok_iff.mpr ⟨(), checkLength_eq_ok_iff.mpr hlength, rfl⟩

theorem Derives.length_le (h : Derives password derivation derived) : 32 ≤ derived.length := by
  cases h with
  | scrypt _ hlength _ _ _ =>
    rw [Scrypt.scrypt, Sha256.length_pbkdf2]
    exact hlength
  | pbkdf2 _ hlength =>
    rw [Sha256.length_pbkdf2]
    exact hlength

theorem exists_sealWith (h : Derives password derivation derived)
    (hiv : iv.length = 16) (secret : Bytes) :
    ∃ contents, sealWith derivation iv secret password = .ok contents ∧
      contents.derivation = derivation := by
  rw [sealWith, deriveKey_eq_ok_iff.mpr h, Except.ok_bind]
  dsimp only
  rw [if_neg (not_not_intro hiv)]
  exact ⟨_, rfl, rfl⟩

/-! ### Opening -/

theorem sameLetters_encode_iff {bs : Bytes} {text : String} :
    sameLetters (Hex.encode bs) text = true ↔ Hex.decode text = .ok bs := by
  have hsmall : lowercase (Hex.encode bs) = Hex.encodeChars bs :=
    Hex.decode_eq_ok_iff.mp (Hex.decode_encode bs)
  rw [sameLetters, beq_iff_eq, hsmall, Hex.decode_eq_ok_iff]
  exact eq_comm

/-- What a password finds in an encrypted part that it opens. -/
structure Opening (contents : Sealed) (password : String) where
  derived : Bytes
  ciphertext : Bytes
  /-- The initial counter. -/
  iv : Bytes
  cipher_eq : contents.cipher = "aes-128-ctr"
  derives : Derives password contents.derivation derived
  decode_ciphertext : Hex.decode contents.ciphertext = .ok ciphertext
  /-- The digest is that of the second sixteen bytes of the derived key and the ciphertext. -/
  decode_mac : Hex.decode contents.mac =
    .ok (Keccak.keccak ((derived.drop 16).take 16 ++ ciphertext))
  decode_iv : Hex.decode contents.iv = .ok iv
  length_iv : iv.length = 16

/-- The plaintext, decrypted under the first sixteen bytes of the derived key. -/
def Opening.plain (opening : Opening contents password) : Bytes :=
  Aes.ctr (opening.derived.take 16) opening.iv opening.ciphertext

/-- A password gives what it opens, and nothing else. -/
theorem openWith_eq_ok_iff :
    openWith contents password = .ok secret ↔
      ∃ opening : Opening contents password, opening.plain = secret := by
  constructor
  · intro h
    -- Every check in the order in which it is made.
    rw [openWith] at h
    dsimp only at h
    by_cases hcipher : contents.cipher ≠ cipherName
    · rw [if_pos hcipher] at h
      cases h
    rw [if_neg hcipher] at h
    obtain ⟨derived, hderived, h⟩ := Except.bind_eq_ok_iff.mp h
    obtain ⟨ciphertext, hciphertext, h⟩ := Except.bind_eq_ok_iff.mp h
    by_cases hmac : ¬sameLetters (mac derived ciphertext) contents.mac
    · rw [if_pos hmac] at h
      cases h
    rw [if_neg hmac] at h
    obtain ⟨iv, hiv, h⟩ := Except.bind_eq_ok_iff.mp h
    by_cases hlength : iv.length ≠ 16
    · rw [if_pos hlength] at h
      cases h
    rw [if_neg hlength] at h
    exact ⟨{
      derived := derived
      ciphertext := ciphertext
      iv := iv
      cipher_eq := Decidable.of_not_not hcipher
      derives := deriveKey_eq_ok_iff.mp hderived
      decode_ciphertext := hexBytes_eq_ok_iff.mp hciphertext
      decode_mac := sameLetters_encode_iff.mp (Decidable.of_not_not hmac)
      decode_iv := hexBytes_eq_ok_iff.mp hiv
      length_iv := Decidable.of_not_not hlength }, Except.ok.inj h⟩
  · rintro ⟨opening, rfl⟩
    have hcipher : contents.cipher = cipherName := opening.cipher_eq
    have hmac : sameLetters (mac opening.derived opening.ciphertext) contents.mac = true :=
      sameLetters_encode_iff.mpr opening.decode_mac
    rw [openWith]
    simp only [hcipher, deriveKey_eq_ok_iff.mpr opening.derives,
      hexBytes_eq_ok_iff.mpr opening.decode_ciphertext, hmac,
      hexBytes_eq_ok_iff.mpr opening.decode_iv, opening.length_iv, Except.ok_bind, ne_eq,
      not_true_eq_false, if_false]
    rfl

/-- A sealed secret is opened with the password that it was sealed with. -/
theorem openWith_of_sealWith (h : sealWith derivation iv secret password = .ok contents) :
    openWith contents password = .ok secret := by
  obtain ⟨derived, hderived, h⟩ := Except.bind_eq_ok_iff.mp h
  dsimp only at h
  split_ifs at h with hlength
  · cases h
  have hderives := deriveKey_eq_ok_iff.mp hderived
  have hkey : (cipherKey derived).length = 16 := by
    have hle := hderives.length_le
    rw [cipherKey, List.length_take]
    omega
  obtain rfl := Except.ok.inj h
  refine openWith_eq_ok_iff.mpr ⟨{
    derived := derived
    ciphertext := Aes.ctr (cipherKey derived) iv secret
    iv := iv
    cipher_eq := rfl
    derives := hderives
    decode_ciphertext := Hex.decode_encode _
    decode_mac := ?_
    decode_iv := Hex.decode_encode _
    length_iv := Decidable.of_not_not hlength }, ?_⟩
  · exact Hex.decode_encode _
  · exact Aes.ctr_ctr hkey iv secret

end Keystore

end ScoreDeploy
