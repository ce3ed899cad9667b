import ScoreDeploy.Proofs.Keystore.Unlocking

/-!
# What loading a wallet tells

The digest in a keystore file covers neither the initial counter nor the address nor the parameters
of the derivation. That a loaded wallet is the one that the file claims rests on all checks
together: a machine loads a wallet exactly if its key is what the password opens and its address is
the one in the file.
-/

namespace ScoreDeploy

/-! ### Keys -/

theorem Secp256k1.PrivateKey.ofBytes?_eq_some_iff {bytes : Bytes} {key : PrivateKey} :
    ofBytes? bytes = some key ↔ bytes = key.toBytes := by
  constructor
  · intro h
    have hkey := ofBytes?_toBytes key
    rw [ofBytes?] at h hkey
    split_ifs at h hkey with hbytes htoBytes
    refine Bytes.eq_of_toNatBE_eq (hbytes.1.trans htoBytes.1.symm) ?_
    exact congrArg PrivateKey.toNat (Option.some.inj (h.trans hkey.symm))
  · rintro rfl
    exact ofBytes?_toBytes key

/-! ### Loaded wallets -/

namespace Wallet

open Transaction

variable {keystore : Keystore} {wallet : Wallet} {secret : Bytes} {path : Path}
variable {password : String} {m : Machine}

theorem ofBytes?_eq_some_iff : ofBytes? secret = some wallet ↔ secret = wallet.key.toBytes := by
  rw [ofBytes?, Option.map_eq_some_iff]
  constructor
  · rintro ⟨key, hkey, rfl⟩
    exact Secp256k1.PrivateKey.ofBytes?_eq_some_iff.mp hkey
  · intro h
    exact ⟨wallet.key, Secp256k1.PrivateKey.ofBytes?_eq_some_iff.mpr h, ofKey_key wallet⟩

theorem ofSecret_eq_ok_iff :
    ofSecret keystore secret = .ok wallet ↔
      secret = wallet.key.toBytes ∧ wallet.address = keystore.address := by
  rw [← ofBytes?_eq_some_iff, ofSecret]
  constructor
  · intro h
    cases hmade : ofBytes? secret with
    | none =>
      rw [hmade] at h
      cases h
    | some made =>
      rw [hmade] at h
      dsimp only at h
      split_ifs at h with haddress
      obtain rfl := Except.ok.inj h
      exact ⟨rfl, haddress⟩
  · rintro ⟨hmade, haddress⟩
    rw [hmade]
    exact if_pos haddress

theorem unlock_eq_ok_iff :
    unlock keystore password = .ok wallet ↔
      (∃ opening : Keystore.Opening keystore.contents password,
        opening.plain = wallet.key.toBytes) ∧ wallet.address = keystore.address := by
  refine Except.bind_eq_ok_iff.trans ?_
  constructor
  · rintro ⟨secret, hopen, hsecret⟩
    obtain ⟨rfl, haddress⟩ := ofSecret_eq_ok_iff.mp hsecret
    exact ⟨Keystore.openWith_eq_ok_iff.mp hopen, haddress⟩
  · rintro ⟨hopen, haddress⟩
    exact ⟨_, Keystore.openWith_eq_ok_iff.mpr hopen, ofSecret_eq_ok_iff.mpr ⟨rfl, haddress⟩⟩

/-- A machine loads what is kept there, and nothing else. -/
theorem value_load_eq_ok_iff :
    Submission.refusing.value (load path password).run m = .ok wallet ↔
      wallet.IsKeptAt m.files path password := by
  constructor
  · intro h
    obtain ⟨m', hload⟩ := Machine.yields_value (looks_load path password).isHost m
    rw [h] at hload
    rcases Action.yields_bind.mp hload with ⟨_, -, he⟩ | ⟨keystore, _, _, _, hfetch, hunlock, -⟩
    · cases he
    · obtain ⟨hdone, -, -⟩ := Reaches.of_done hunlock
      have htold := Keystore.tells_of_yields_fetch hfetch fun _ h => (congrArg Prod.fst h).symm
      exact ⟨keystore, htold, (Program.done.inj hdone).symm⟩
  · intro h
    exact h.loadsFrom m rfl

/-- A loaded wallet holds precisely the key that the password opens, and its address, which comes
from that key, is the address in the file. So whatever else is changed in a file, and whatever the
password is then, the address stays the same. -/
theorem holds_claimed_key_of_load
    (h : Submission.refusing.value (load path password).run m = .ok wallet) :
    ∃ (keystore : Keystore) (opening : Keystore.Opening keystore.contents password),
      Workspace.Tells m.files Keystore.read path keystore ∧
      32 ≤ opening.derived.length ∧
      opening.plain.length = 32 ∧
      Secp256k1.PrivateKey.ofBytes? opening.plain = some wallet.key ∧
      opening.plain = wallet.key.toBytes ∧
      wallet.address = Address.ofPublicKey wallet.key.publicKey ∧
      wallet.address = keystore.address ∧
      ∀ (m' : Machine) (path' : Path) (password' : String) (keystore' : Keystore)
          (wallet' : Wallet), Workspace.Tells m'.files Keystore.read path' keystore' →
        keystore'.address = keystore.address →
        Submission.refusing.value (load path' password').run m' = .ok wallet' →
          wallet'.address = wallet.address := by
  obtain ⟨keystore, htells, hunlock⟩ := value_load_eq_ok_iff.mp h
  obtain ⟨⟨opening, hplain⟩, haddress⟩ := unlock_eq_ok_iff.mp hunlock
  have hderived := opening.derives.length_le
  refine ⟨keystore, opening, htells, hderived, ?_, ?_, hplain, wallet.address_eq, haddress, ?_⟩
  · rw [hplain]
    exact Bytes.length_ofNatBE 32 _
  · exact Secp256k1.PrivateKey.ofBytes?_eq_some_iff.mpr hplain
  · intro m' path' password' keystore' wallet' htells' hsame hload
    obtain ⟨keystore'', htells'', hunlock'⟩ := value_load_eq_ok_iff.mp hload
    obtain rfl := htells'.unique htells''
    obtain ⟨-, haddress'⟩ := unlock_eq_ok_iff.mp hunlock'
    calc wallet'.address = keystore'.address := haddress'
      _ = keystore.address := hsame
      _ = wallet.address := haddress.symm

/-- A machine with one file. -/
def holding (keystore : Keystore) : Machine :=
  { Submission.newMachine with
    files := FileSystem.put ⟨[], .root⟩ (Place.root.child "key.json")
      (.file (Bytes.ofText keystore.text)) }

theorem tells_holding (keystore : Keystore) :
    Workspace.Tells (holding keystore).files Keystore.read "/key.json" keystore :=
  ⟨_, _, rfl, Bytes.toText?_ofText _, Keystore.read_text keystore⟩

theorem value_load_holding {derivation : Derivation} {iv : Bytes} (keystore : Keystore)
    (hseal : Keystore.sealWith derivation iv wallet.key.toBytes password = .ok keystore.contents)
    (haddress : keystore.address = wallet.address) :
    Submission.refusing.value (load "/key.json" password).run (holding keystore) = .ok wallet :=
  value_load_eq_ok_iff.mpr ⟨keystore, tells_holding keystore, unlock_of_sealWith hseal haddress⟩

/-- The least wallet is loaded from a file that scrypt was used for and from one that PBKDF2 was
used for under another password, and the address in the files is the one of its key. -/
theorem holds_claimed_key_of_load_twice : ∃ one two : Keystore,
    one.contents.derivation ≠ two.contents.derivation ∧
    Submission.refusing.value (load "/key.json" "a").run (holding one) = .ok leastWallet ∧
    Submission.refusing.value (load "/key.json" "b").run (holding two) = .ok leastWallet ∧
    (∃ (keystore : Keystore) (opening : Keystore.Opening keystore.contents "a"),
      Workspace.Tells (holding one).files Keystore.read "/key.json" keystore ∧
      opening.plain = leastWallet.key.toBytes ∧ leastWallet.address = keystore.address) ∧
    ∀ other, Submission.refusing.value (load "/key.json" "b").run (holding two) = .ok other →
      other.address = leastWallet.address := by
  have hsalt : Hex.decode "" = .ok [] := rfl
  have hiv : (List.replicate 16 (0 : UInt8)).length = 16 := List.length_replicate
  have hscrypt : Keystore.Derives "a" (.scrypt 32 2 1 1 "") _ :=
    .scrypt hsalt (by decide) Nat.one_pos (by decide) (by decide)
  have hpbkdf2 : Keystore.Derives "b" (.pbkdf2 1 32 "hmac-sha256" "") _ :=
    .pbkdf2 hsalt (by decide)
  obtain ⟨first, hfirst, hone⟩ := Keystore.exists_sealWith hscrypt hiv leastWallet.key.toBytes
  obtain ⟨second, hsecond, htwo⟩ := Keystore.exists_sealWith hpbkdf2 hiv leastWallet.key.toBytes
  let one : Keystore := ⟨leastWallet.address, first, "", 3, none⟩
  let two : Keystore := ⟨leastWallet.address, second, "", 3, none⟩
  have hloadOne := value_load_holding one hfirst rfl
  have hloadTwo := value_load_holding two hsecond rfl
  obtain ⟨keystore, opening, htells, -, -, -, hplain, -, haddress, hothers⟩ :=
    holds_claimed_key_of_load hloadOne
  refine ⟨one, two, ?_, hloadOne, hloadTwo, ⟨keystore, opening, htells, hplain, haddress⟩, ?_⟩
  · show first.derivation ≠ second.derivation
    rw [hone, htwo]
    exact Derivation.noConfusion
  · intro other hother
    have hsame : two.address = keystore.address := haddress
    exact hothers _ _ _ two other (tells_holding two) hsame hother

end Wallet

end ScoreDeploy
