import ScoreDeploy.Proofs.Keystore.Store
import ScoreDeploy.Proofs.Transaction.Signature

/-!
# Unlocking what was stored

Nothing but an operation on files can keep a wallet from being stored: every secret can be sealed
under every password with whatever random bytes there are. Once it is stored, it is loaded with the
same password again.
-/

namespace ScoreDeploy

namespace Keystore

variable {σ : Type} {rule : MachineRule σ} {s t : σ} {fs fs' : FileSystem} {calls : List Call}
variable {path : Path} {password : String} {keystore : Keystore}

/-! ### Making a keystore file -/

theorem exists_sealWith_newDerivation (salt : Bytes) {iv : Bytes} (hiv : iv.length = 16)
    (secret : Bytes) (password : String) :
    ∃ contents, sealWith (newDerivation salt) iv secret password = .ok contents := by
  have hderives : Derives password (newDerivation salt) _ :=
    .scrypt (Hex.decode_encode salt) (by decide) (show 0 < 14 by decide) rfl (by decide)
  obtain ⟨contents, hseal, -⟩ := exists_sealWith hderives hiv secret
  exact ⟨contents, hseal⟩

/-- Whatever random bytes there are, a keystore file is made of them. -/
theorem exists_of_yields_create {secret : Bytes} {address : String} {r : Except Error Keystore}
    (h : (create secret address password).Yields rule s calls r t) :
    ∃ keystore, r = .ok keystore := by
  obtain ⟨salt, _, -, h⟩ := Action.yields_host_bind.mp h
  obtain ⟨iv, _, -, h⟩ := Action.yields_host_bind.mp h
  have hiv : (Vector.toList iv).length = 16 := Vector.length_toList
  obtain ⟨contents, hseal⟩ := exists_sealWith_newDerivation (Vector.toList salt) hiv secret password
  rw [hseal] at h
  obtain ⟨random, _, -, h⟩ := Action.yields_host_bind.mp h
  obtain ⟨-, rfl, -⟩ := Action.yields_pure.mp h
  exact ⟨_, rfl⟩

theorem exists_yields_create (hrandom : ∀ count, ∃ bytes, rule (.randomBytes count) s bytes s)
    (secret : Bytes) (address password : String) :
    ∃ keystore, (create secret address password).Yields rule s [] (.ok keystore) s := by
  obtain ⟨salt, hsalt⟩ := hrandom 32
  obtain ⟨iv, hiv⟩ := hrandom 16
  obtain ⟨random, hlast⟩ := hrandom 16
  have hlength : (Vector.toList iv).length = 16 := Vector.length_toList
  obtain ⟨contents, hseal⟩ :=
    exists_sealWith_newDerivation (Vector.toList salt) hlength secret password
  refine ⟨⟨address, contents, identifier (Vector.toList random), 3, some "icx"⟩, ?_⟩
  refine Action.yields_host_bind.mpr ⟨salt, s, hsalt, ?_⟩
  refine Action.yields_host_bind.mpr ⟨iv, s, hiv, ?_⟩
  rw [hseal]
  exact Action.yields_host_bind.mpr ⟨random, s, hlast, .refl _ _⟩

/-! ### Saving it -/

theorem exists_io_of_yields_orFail {answer : Except IoError Unit} {e : Error}
    (h : (Action.orFail (.io path) answer : Action Error Unit).Yields rule s calls (.error e) t) :
    ∃ cause, e = .io path cause := by
  obtain ⟨-, he, -⟩ := Action.yields_orFail.mp h
  cases answer with
  | ok _ => cases he
  | error cause => exact ⟨cause, Except.error.inj he⟩

theorem exists_io_of_yields_save {e : Error}
    (h : (save path keystore).Yields rule s calls (.error e) t) : ∃ cause, e = .io path cause := by
  have hwrite {s : σ} {calls : List Call}
      (h : (Action.host (.write path (Bytes.ofText keystore.text)) >>= fun answer =>
        Action.orFail (.io path) answer : Action Error Unit).Yields rule s calls (.error e) t) :
      ∃ cause, e = .io path cause := by
    obtain ⟨_, _, -, h⟩ := Action.yields_host_bind.mp h
    exact exists_io_of_yields_orFail h
  dsimp only [save] at h
  split at h
  · obtain ⟨_, _, -, h⟩ := Action.yields_host_bind.mp h
    rcases Action.yields_bind.mp h with ⟨e', hfail, he⟩ | ⟨_, _, _, _, -, hrest, -⟩
    · obtain rfl := Except.error.inj he
      exact exists_io_of_yields_orFail hfail
    · exact hwrite hrest
  · exact hwrite h

end Keystore

/-! ### Wallets -/

namespace Wallet

open Transaction

variable {fs fs' : FileSystem} {calls : List Call} {wallet : Wallet} {path : Path}
variable {password : String}

theorem exists_io_of_yields_store {σ : Type} {rule : MachineRule σ} {s t : σ} {e : Keystore.Error}
    (h : (wallet.store path password).Yields rule s calls (.error e) t) :
    ∃ cause, e = .io path cause := by
  rcases Action.yields_bind.mp h with ⟨_, hcreate, -⟩ | ⟨_, _, _, _, -, hsave, -⟩
  · obtain ⟨_, hok⟩ := Keystore.exists_of_yields_create hcreate
    cases hok
  · exact Keystore.exists_io_of_yields_save hsave

/-- Whatever the key, the password, the path and the random bytes, a wallet that was stored is
loaded again by every machine that has the files, with the same key and the same address. It is
stored unless an operation on its file fails. -/
theorem load_of_store {r : Except Keystore.Error Unit}
    (h : (wallet.store path password).Yields FileSystem.rule fs calls r fs') :
    (r = .ok () → ∀ m : Machine, m.files = fs' → ∃ loaded : Wallet,
      Submission.refusing.value (load path password).run m = .ok loaded ∧
        loaded.key = wallet.key ∧ loaded.address = wallet.address) ∧
      ∀ e, r = .error e → ∃ cause, e = .io path cause := by
  refine ⟨fun hok m hfiles => ?_, ?_⟩
  · have hkept : wallet.IsKeptAt fs' path password := (retains_of_store h).2 hok
    exact ⟨wallet, hkept.loadsFrom m hfiles, rfl, rfl⟩
  · rintro e rfl
    exact exists_io_of_yields_store h

/-- A wallet is stored if its directory can be made and its file can be written. -/
theorem exists_yields_store {σ : Type} {rule : MachineRule σ} {s m : σ} {parent : Path}
    {written : Bytes → σ} (hrandom : ∀ count, ∃ bytes, rule (.randomBytes count) s bytes s)
    (hparent : path.parent? = some parent) (hmake : rule (.makeDirectories parent) s (.ok ()) m)
    (hwrite : ∀ content, rule (.write path content) m (.ok ()) (written content)) :
    ∃ content, (wallet.store path password).Yields rule s [] (.ok ()) (written content) := by
  obtain ⟨keystore, hcreate⟩ :=
    Keystore.exists_yields_create hrandom wallet.key.toBytes wallet.address password
  refine ⟨Bytes.ofText keystore.text, hcreate.bind_silent ?_⟩
  rw [Keystore.save, hparent]
  refine Action.yields_host_bind.mpr ⟨(.ok () : Except IoError Unit), m, hmake, ?_⟩
  exact Action.yields_host_bind.mpr
    ⟨(.ok () : Except IoError Unit), _, hwrite (Bytes.ofText keystore.text), .refl _ _⟩

/-- A bare file system takes the wallet of the least key under the empty password, and gives it
back. -/
theorem load_of_store_least : ∃ fs' : FileSystem,
    (leastWallet.store "/key.json" "").Yields FileSystem.rule ⟨[], .root⟩ [] (.ok ()) fs' ∧
    ∀ m : Machine, m.files = fs' → ∃ loaded : Wallet,
      Submission.refusing.value (load "/key.json" "").run m = .ok loaded ∧
        loaded.key.toNat = 1 ∧ loaded.address = leastWallet.address := by
  let bare : FileSystem := ⟨[], .root⟩
  have hmake : bare.makeDirectories "/" = (.ok (), bare) := by rfl
  have hwrite : ∀ content, bare.write "/key.json" content =
      .ok (bare.put (Place.root.child "key.json") (.file content)) := fun _ => rfl
  obtain ⟨content, hstore⟩ : ∃ content, (leastWallet.store "/key.json" "").Yields FileSystem.rule
      bare [] (.ok ()) (bare.put (Place.root.child "key.json") (.file content)) :=
    exists_yields_store (fun _ => FileSystem.mayIdle_rule _ bare) (by decide +kernel) hmake hwrite
  refine ⟨_, hstore, fun m hfiles => ?_⟩
  obtain ⟨loaded, hload, hkey, haddress⟩ := (load_of_store hstore).1 rfl m hfiles
  exact ⟨loaded, hload, congrArg _ hkey, haddress⟩

end Wallet

end ScoreDeploy
