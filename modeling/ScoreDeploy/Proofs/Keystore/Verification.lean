import ScoreDeploy.Proofs.Guarded
import ScoreDeploy.Proofs.Keystore.Opening

/-!
# Every answer to a password

What has to hold for an encrypted part to be opened is checked in a fixed order, and the digest is
looked at before anything that only the decryption needs. `Refuses` tells which error is the answer
when one of the checks fails. The slices of the derived key are always there: `openGuarded` takes
them with a check and comes to the same result.
-/

namespace ScoreDeploy

namespace Keystore

variable {contents : Sealed} {derivation : Derivation} {password text : String}
variable {derived ciphertext iv secret : Bytes} {e : Error}

/-! ### Derivations that fail -/

/-- The salt of a derivation, in hexadecimal. -/
def saltOf : Derivation → String
  | .scrypt _ _ _ _ salt => salt
  | .pbkdf2 _ _ _ salt => salt

/-- The length that a derived key is to have. -/
def lengthOf : Derivation → UInt64
  | .scrypt length _ _ _ _ => length
  | .pbkdf2 _ length _ _ => length

/-- The key from the bytes of the salt. -/
def keyFrom (password : String) (salt : Bytes) : Derivation → Except Error Bytes
  | .scrypt length rows blockFactor lanes _ =>
    scryptKey (Bytes.ofText password) salt length rows blockFactor lanes
  | .pbkdf2 iterations length function _ =>
    if function ≠ functionName then .error (.unknownFunction function)
    else .ok (Sha256.pbkdf2 (Bytes.ofText password) salt iterations.toNat length.toNat)

theorem deriveKey_eq (derivation : Derivation) (password : String) :
    deriveKey derivation password = (do
      let salt ← hexBytes (saltOf derivation)
      checkLength (lengthOf derivation)
      keyFrom password salt derivation) := by
  cases derivation <;> rfl

/-- Why no key is derived, whatever the password: the first of the checks that fails. -/
inductive FailsToDerive : Derivation → Error → Prop
  | salt {derivation : Derivation} {cause : Hex.Error} :
      Hex.decode (saltOf derivation) = .error cause → FailsToDerive derivation (.hex cause)
  | length {derivation : Derivation} {bytes : Bytes} :
      Hex.decode (saltOf derivation) = .ok bytes → (lengthOf derivation).toNat < 32 →
      FailsToDerive derivation (.shortKey (lengthOf derivation))
  | rows {length rows : UInt64} {blockFactor lanes : UInt32} {salt : String} {bytes : Bytes} :
      Hex.decode salt = .ok bytes → 32 ≤ length.toNat → (¬∃ k, 0 < k ∧ rows.toNat = 2 ^ k) →
      FailsToDerive (.scrypt length rows blockFactor lanes salt) (.badRows rows)
  | cost {length rows : UInt64} {blockFactor lanes : UInt32} {salt : String} {bytes : Bytes}
      {k : Nat} :
      Hex.decode salt = .ok bytes → 32 ≤ length.toNat → 0 < k → rows.toNat = 2 ^ k →
      ¬Scrypt.Cost.Allows ⟨k, blockFactor.toNat, lanes.toNat⟩ length.toNat →
      FailsToDerive (.scrypt length rows blockFactor lanes salt) .badCost
  | function {iterations : UInt32} {length : UInt64} {function salt : String} {bytes : Bytes} :
      Hex.decode salt = .ok bytes → 32 ≤ length.toNat → function ≠ "hmac-sha256" →
      FailsToDerive (.pbkdf2 iterations length function salt) (.unknownFunction function)

theorem hexBytes_of_error {cause : Hex.Error} (h : Hex.decode text = .error cause) :
    hexBytes text = .error (.hex cause) := by
  rw [hexBytes, h]
  rfl

theorem checkLength_of_lt {length : UInt64} (h : length.toNat < 32) :
    checkLength length = .error (.shortKey length) :=
  if_pos h

theorem deriveKey_of_salt (derivation : Derivation) (password : String) {bytes : Bytes}
    (hsalt : Hex.decode (saltOf derivation) = .ok bytes)
    (hlength : 32 ≤ (lengthOf derivation).toNat) :
    deriveKey derivation password = keyFrom password bytes derivation := by
  rw [deriveKey_eq, hexBytes_eq_ok_iff.mpr hsalt, Except.ok_bind,
    checkLength_eq_ok_iff.mpr hlength, Except.ok_bind]

theorem FailsToDerive.deriveKey_eq_error (h : FailsToDerive derivation e) (password : String) :
    deriveKey derivation password = .error e := by
  cases h with
  | salt hsalt =>
    rw [deriveKey_eq, hexBytes_of_error hsalt]
    rfl
  | length hsalt hshort =>
    rw [deriveKey_eq, hexBytes_eq_ok_iff.mpr hsalt, Except.ok_bind, checkLength_of_lt hshort]
    rfl
  | @rows length rows blockFactor lanes salt _ hsalt hlength hrows =>
    rw [deriveKey_of_salt (.scrypt length rows blockFactor lanes salt) password hsalt hlength,
      keyFrom, scryptKey, if_pos]
    rwa [isRowCount_iff]
  | @cost length rows blockFactor lanes salt _ _ hsalt hlength hk hrows hcost =>
    have hcount := isRowCount_iff.mpr ⟨_, hk, hrows⟩
    rw [deriveKey_of_salt (.scrypt length rows blockFactor lanes salt) password hsalt hlength,
      keyFrom, scryptKey, if_neg (not_not_intro hcount), hrows, Nat.log2_two_pow, if_neg hcost]
  | @function iterations length function salt _ hsalt hlength hfunction =>
    rw [deriveKey_of_salt (.pbkdf2 iterations length function salt) password hsalt hlength,
      keyFrom, if_pos]
    exact hfunction

theorem derives_or_fails (derivation : Derivation) (password : String) :
    (∃ derived, Derives password derivation derived) ∨ ∃ e, FailsToDerive derivation e := by
  cases hsalt : Hex.decode (saltOf derivation) with
  | error cause => exact .inr ⟨_, .salt hsalt⟩
  | ok bytes =>
    by_cases hlength : 32 ≤ (lengthOf derivation).toNat
    · cases derivation with
      | scrypt length rows blockFactor lanes salt =>
        by_cases hrows : ∃ k, 0 < k ∧ rows.toNat = 2 ^ k
        · obtain ⟨k, hk, hpow⟩ := hrows
          by_cases hcost : Scrypt.Cost.Allows ⟨k, blockFactor.toNat, lanes.toNat⟩ length.toNat
          · exact .inl ⟨_, .scrypt hsalt hlength hk hpow hcost⟩
          · exact .inr ⟨_, .cost hsalt hlength hk hpow hcost⟩
        · exact .inr ⟨_, .rows hsalt hlength hrows⟩
      | pbkdf2 iterations length function salt =>
        by_cases hfunction : function = "hmac-sha256"
        · subst hfunction
          exact .inl ⟨_, .pbkdf2 hsalt hlength⟩
        · exact .inr ⟨_, .function hsalt hlength hfunction⟩
    · exact .inr ⟨_, .length hsalt (Nat.lt_of_not_le hlength)⟩

theorem deriveKey_eq_error_iff : deriveKey derivation password = .error e ↔
    FailsToDerive derivation e := by
  constructor
  · intro h
    rcases derives_or_fails derivation password with ⟨derived, hderives⟩ | ⟨e', hfails⟩
    · rw [deriveKey_eq_ok_iff.mpr hderives] at h
      cases h
    · rw [hfails.deriveKey_eq_error] at h
      cases h
      exact hfails
  · intro h
    exact h.deriveKey_eq_error password

/-! ### Encrypted parts that stay closed -/

/-- What has to be there before the digest is looked at. -/
structure Finds (contents : Sealed) (password : String) (derived ciphertext : Bytes) : Prop where
  cipher_eq : contents.cipher = "aes-128-ctr"
  derives : Derives password contents.derivation derived
  decode_ciphertext : Hex.decode contents.ciphertext = .ok ciphertext

/-- The digest is that of the second sixteen bytes of the derived key and the ciphertext, in
hexadecimal with letters of either case. -/
def HasMac (contents : Sealed) (derived ciphertext : Bytes) : Prop :=
  contents.mac.toList.map Char.toLower =
    (Hex.encode (Keccak.keccak ((derived.drop 16).take 16 ++ ciphertext))).toList

/-- Why an encrypted part is not opened: the first of the checks that fails. -/
inductive Refuses (contents : Sealed) (password : String) : Error → Prop
  | cipher : contents.cipher ≠ "aes-128-ctr" →
      Refuses contents password (.unknownCipher contents.cipher)
  | derivation {e : Error} : contents.cipher = "aes-128-ctr" →
      FailsToDerive contents.derivation e → Refuses contents password e
  | ciphertext {derived : Bytes} {cause : Hex.Error} : contents.cipher = "aes-128-ctr" →
      Derives password contents.derivation derived →
      Hex.decode contents.ciphertext = .error cause → Refuses contents password (.hex cause)
  | mac {derived ciphertext : Bytes} : Finds contents password derived ciphertext →
      ¬HasMac contents derived ciphertext → Refuses contents password .wrongPassword
  | iv {derived ciphertext : Bytes} {cause : Hex.Error} :
      Finds contents password derived ciphertext → HasMac contents derived ciphertext →
      Hex.decode contents.iv = .error cause → Refuses contents password (.hex cause)
  | ivLength {derived ciphertext iv : Bytes} : Finds contents password derived ciphertext →
      HasMac contents derived ciphertext → Hex.decode contents.iv = .ok iv → iv.length ≠ 16 →
      Refuses contents password (.badIvLength iv.length)

theorem sameLetters_mac_iff :
    sameLetters (mac derived ciphertext) contents.mac = true ↔
      HasMac contents derived ciphertext := by
  rw [mac, sameLetters_encode_iff, Hex.decode_eq_ok_iff, HasMac, Hex.encode, String.toList_ofList]

/-- What is left to do once the digest can be looked at. -/
theorem Finds.openWith_eq (h : Finds contents password derived ciphertext) :
    openWith contents password =
      if ¬sameLetters (mac derived ciphertext) contents.mac then .error .wrongPassword
      else hexBytes contents.iv >>= fun iv =>
        if iv.length ≠ 16 then .error (.badIvLength iv.length)
        else .ok (Aes.ctr (cipherKey derived) iv ciphertext) := by
  have hcipher : contents.cipher = cipherName := h.cipher_eq
  rw [openWith, if_neg (not_not_intro hcipher)]
  dsimp only
  rw [deriveKey_eq_ok_iff.mpr h.derives, Except.ok_bind,
    hexBytes_eq_ok_iff.mpr h.decode_ciphertext, Except.ok_bind]
  by_cases hmac : ¬sameLetters (mac derived ciphertext) contents.mac
  · rw [if_pos hmac, if_pos hmac]
    rfl
  · rw [if_neg hmac, if_neg hmac]
    rfl

theorem Refuses.openWith_eq (h : Refuses contents password e) :
    openWith contents password = .error e := by
  cases h with
  | cipher hcipher =>
    rw [openWith, if_pos]
    · rfl
    · exact hcipher
  | derivation hcipher hfails =>
    have hcipher : contents.cipher = cipherName := hcipher
    rw [openWith, if_neg (not_not_intro hcipher), hfails.deriveKey_eq_error]
    rfl
  | ciphertext hcipher hderives hciphertext =>
    have hcipher : contents.cipher = cipherName := hcipher
    rw [openWith, if_neg (not_not_intro hcipher), deriveKey_eq_ok_iff.mpr hderives,
      hexBytes_of_error hciphertext]
    rfl
  | mac hfinds hmac =>
    rw [hfinds.openWith_eq, if_pos]
    rwa [sameLetters_mac_iff]
  | iv hfinds hmac hiv =>
    rw [hfinds.openWith_eq, if_neg (not_not_intro (sameLetters_mac_iff.mpr hmac)),
      hexBytes_of_error hiv]
    rfl
  | ivLength hfinds hmac hiv hlength =>
    rw [hfinds.openWith_eq, if_neg (not_not_intro (sameLetters_mac_iff.mpr hmac)),
      hexBytes_eq_ok_iff.mpr hiv, Except.ok_bind, if_pos hlength]

theorem openWith_eq_ok_iff_finds : openWith contents password = .ok secret ↔
    ∃ derived ciphertext iv, Finds contents password derived ciphertext ∧
      HasMac contents derived ciphertext ∧ Hex.decode contents.iv = .ok iv ∧ iv.length = 16 ∧
      secret = Aes.ctr (derived.take 16) iv ciphertext := by
  rw [openWith_eq_ok_iff]
  constructor
  · rintro ⟨opening, rfl⟩
    exact ⟨opening.derived, opening.ciphertext, opening.iv,
      ⟨opening.cipher_eq, opening.derives, opening.decode_ciphertext⟩,
      sameLetters_mac_iff.mp (sameLetters_encode_iff.mpr opening.decode_mac), opening.decode_iv,
      opening.length_iv, rfl⟩
  · rintro ⟨derived, ciphertext, iv, hfinds, hmac, hiv, hlength, rfl⟩
    exact ⟨⟨derived, ciphertext, iv, hfinds.cipher_eq, hfinds.derives, hfinds.decode_ciphertext,
      sameLetters_encode_iff.mp (sameLetters_mac_iff.mpr hmac), hiv, hlength⟩, rfl⟩

theorem opens_or_refuses (contents : Sealed) (password : String) :
    (∃ secret, openWith contents password = .ok secret) ∨ ∃ e, Refuses contents password e := by
  -- The cases are the checks in the order in which they are made.
  by_cases hcipher : contents.cipher = "aes-128-ctr"
  swap
  · exact .inr ⟨_, .cipher hcipher⟩
  rcases derives_or_fails contents.derivation password with ⟨derived, hderives⟩ | ⟨e, hfails⟩
  swap
  · exact .inr ⟨_, .derivation hcipher hfails⟩
  cases hciphertext : Hex.decode contents.ciphertext with
  | error cause => exact .inr ⟨_, .ciphertext hcipher hderives hciphertext⟩
  | ok ciphertext =>
    have hfinds : Finds contents password derived ciphertext := ⟨hcipher, hderives, hciphertext⟩
    by_cases hmac : HasMac contents derived ciphertext
    swap
    · exact .inr ⟨_, .mac hfinds hmac⟩
    cases hiv : Hex.decode contents.iv with
    | error cause => exact .inr ⟨_, .iv hfinds hmac hiv⟩
    | ok iv =>
      by_cases hlength : iv.length = 16
      · exact .inl ⟨_, openWith_eq_ok_iff_finds.mpr
          ⟨derived, ciphertext, iv, hfinds, hmac, hiv, hlength, rfl⟩⟩
      · exact .inr ⟨_, .ivLength hfinds hmac hiv hlength⟩

theorem openWith_eq_error_iff : openWith contents password = .error e ↔
    Refuses contents password e := by
  constructor
  · intro h
    rcases opens_or_refuses contents password with ⟨secret, hopens⟩ | ⟨e', hrefuses⟩
    · rw [h] at hopens
      cases hopens
    · -- There is one answer only, so the error that was found is this one.
      rw [hrefuses.openWith_eq] at h
      cases h
      exact hrefuses
  · exact Refuses.openWith_eq

/-! ### Slices -/

/-- The bytes between two positions, if there are so many. -/
def slice? (bytes : Bytes) (start stop : Nat) : Option Bytes :=
  if start ≤ stop ∧ stop ≤ bytes.length then some ((bytes.drop start).take (stop - start))
  else none

/-- What a keystore file encrypts, where the derived key is cut with a check. -/
def openGuarded (contents : Sealed) (password : String) : Guarded Error Bytes := do
  if contents.cipher ≠ cipherName then throw (.unknownCipher contents.cipher)
  let derived ← Guarded.step (deriveKey contents.derivation password)
  let ciphertext ← Guarded.step (hexBytes contents.ciphertext)
  let second ← Guarded.sure (slice? derived 16 32)
  let digest := Hex.encode (Keccak.keccak (second ++ ciphertext))
  if ¬sameLetters digest contents.mac then throw .wrongPassword
  let iv ← Guarded.step (hexBytes contents.iv)
  let first ← Guarded.sure (slice? derived 0 16)
  if iv.length ≠ 16 then throw (.badIvLength iv.length)
  return Aes.ctr first iv ciphertext

theorem run_openGuarded (contents : Sealed) (password : String) :
    (openGuarded contents password).run = some (openWith contents password) := by
  rw [openGuarded, openWith]
  by_cases hcipher : contents.cipher ≠ cipherName
  · rw [if_pos hcipher, if_pos hcipher]
    rfl
  rw [if_neg hcipher, if_neg hcipher]
  refine Guarded.run_step_bind fun derived hderived => ?_
  -- Both slices lie within the thirty-two bytes that every derived key has.
  have hle := (deriveKey_eq_ok_iff.mp hderived).length_le
  have hsecond : slice? derived 16 32 = some ((derived.drop 16).take 16) := if_pos (by omega)
  have hfirst : slice? derived 0 16 = some (derived.take 16) := if_pos (by omega)
  refine Guarded.run_step_bind fun ciphertext _ => ?_
  rw [Guarded.sure_bind hsecond]
  change ExceptT.run (if ¬sameLetters (mac derived ciphertext) contents.mac then _ else _) =
    some (if ¬sameLetters (mac derived ciphertext) contents.mac then _ else _)
  by_cases hmac : ¬sameLetters (mac derived ciphertext) contents.mac
  · rw [if_pos hmac, if_pos hmac]
    rfl
  rw [if_neg hmac, if_neg hmac]
  refine Guarded.run_step_bind fun iv _ => ?_
  rw [Guarded.sure_bind hfirst]
  by_cases hlength : iv.length ≠ 16
  · rw [if_pos hlength, if_pos hlength]
    rfl
  · rw [if_neg hlength, if_neg hlength]
    rfl

/-! ### Every answer -/

/-- An encrypted part is opened just if the cipher is the known one, a key can be derived, the
ciphertext is hexadecimal, the digest is the right one and the initial counter has sixteen bytes;
the answer is then the decrypted ciphertext. Otherwise it is the error of the first check that
fails, so a wrong digest is told whatever the initial counter is. The derived key is long enough for
both slices. What was encrypted with the digest made that way is the answer, and any secret can be
sealed so. -/
theorem openWith_verifies_then_decrypts (contents : Sealed) (password : String) :
    (∀ derived, (deriveKey contents.derivation password = .ok derived ↔
        Derives password contents.derivation derived) ∧
      (Derives password contents.derivation derived → 32 ≤ derived.length)) ∧
    (∀ e, deriveKey contents.derivation password = .error e ↔
      FailsToDerive contents.derivation e) ∧
    (∀ secret, openWith contents password = .ok secret ↔
      ∃ derived ciphertext iv, Finds contents password derived ciphertext ∧
        HasMac contents derived ciphertext ∧ Hex.decode contents.iv = .ok iv ∧ iv.length = 16 ∧
        secret = Aes.ctr (derived.take 16) iv ciphertext) ∧
    (∀ e, openWith contents password = .error e ↔ Refuses contents password e) ∧
    (openGuarded contents password).run = some (openWith contents password) ∧
    (∀ derived ciphertext, Finds contents password derived ciphertext →
      ¬HasMac contents derived ciphertext →
      ∀ text, openWith { contents with iv := text } password = .error .wrongPassword) ∧
    (∀ derived iv secret,
      Finds contents password derived (Aes.ctr (derived.take 16) iv secret) →
      HasMac contents derived (Aes.ctr (derived.take 16) iv secret) →
      Hex.decode contents.iv = .ok iv → iv.length = 16 →
      openWith contents password = .ok secret) ∧
    ∀ derived iv secret, Derives password contents.derivation derived → iv.length = 16 →
      ∃ file, sealWith contents.derivation iv secret password = .ok file ∧
        openWith file password = .ok secret := by
  refine ⟨fun derived => ⟨deriveKey_eq_ok_iff, Derives.length_le⟩, fun e => deriveKey_eq_error_iff,
    fun secret => openWith_eq_ok_iff_finds, fun e => openWith_eq_error_iff,
    run_openGuarded contents password, ?_, ?_, ?_⟩
  · intro derived ciphertext hfinds hmac text
    have hfinds : Finds { contents with iv := text } password derived ciphertext :=
      ⟨hfinds.cipher_eq, hfinds.derives, hfinds.decode_ciphertext⟩
    exact (Refuses.mac hfinds hmac).openWith_eq
  · intro derived iv secret hfinds hmac hiv hlength
    have hkey : (derived.take 16).length = 16 := by
      have hle := hfinds.derives.length_le
      rw [List.length_take]
      omega
    refine openWith_eq_ok_iff_finds.mpr ⟨derived, _, iv, hfinds, hmac, hiv, hlength, ?_⟩
    exact (Aes.ctr_ctr hkey iv secret).symm
  · intro derived iv secret hderives hlength
    obtain ⟨file, hfile, -⟩ := exists_sealWith hderives hlength secret
    exact ⟨file, hfile, openWith_of_sealWith hfile⟩

/-- Three bytes are sealed and opened; with another digest the password is told to be wrong,
although the initial counter is no hexadecimal text either. -/
theorem openWith_verifies_then_decrypts_three :
    ∃ file : Sealed, openWith file "b" = .ok [1, 2, 3] ∧
      (openGuarded file "b").run = some (.ok [1, 2, 3]) ∧
      openWith { file with mac := "x", iv := "y" } "b" = .error .wrongPassword := by
  obtain ⟨derived, hderives⟩ : ∃ derived, Derives "b" (.pbkdf2 1 32 "hmac-sha256" "") derived :=
    ⟨_, .pbkdf2 rfl (by decide)⟩
  let iv : Bytes := List.replicate 16 0
  let ciphertext := Aes.ctr (derived.take 16) iv [1, 2, 3]
  let file : Sealed := {
    cipher := "aes-128-ctr"
    iv := Hex.encode iv
    ciphertext := Hex.encode ciphertext
    derivationName := "pbkdf2"
    derivation := .pbkdf2 1 32 "hmac-sha256" ""
    mac := mac derived ciphertext }
  have hmac : HasMac file derived ciphertext := sameLetters_mac_iff.mp (beq_self_eq_true _)
  have hother : ¬HasMac { file with mac := "x" } derived ciphertext := by
    have hodd : Hex.decode "x" = .error .oddLength := rfl
    rw [← sameLetters_mac_iff, mac, sameLetters_encode_iff]
    intro h
    cases hodd.symm.trans h
  obtain ⟨-, -, -, -, hguarded, -, hopens, -⟩ := openWith_verifies_then_decrypts file "b"
  obtain ⟨-, -, -, -, -, hwrong, -, -⟩ :=
    openWith_verifies_then_decrypts { file with mac := "x" } "b"
  have hfile : openWith file "b" = .ok [1, 2, 3] :=
    hopens derived iv [1, 2, 3] ⟨rfl, hderives, Hex.decode_encode _⟩ hmac (Hex.decode_encode _)
      List.length_replicate
  refine ⟨file, hfile, ?_, ?_⟩
  · rw [hguarded, hfile]
  · exact hwrong derived ciphertext ⟨rfl, hderives, Hex.decode_encode _⟩ hother "y"

end Keystore

end ScoreDeploy
