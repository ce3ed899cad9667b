import ScoreDeploy.Proofs.FileSystem.Retain
import ScoreDeploy.Proofs.Keystore.Opening
import ScoreDeploy.Proofs.Keystore.Text
import ScoreDeploy.Proofs.Workspace.Reading
import ScoreDeploy.Proofs.Bytes.Numeral

/-!
# Wallets in keystore files

A wallet that was stored is unlocked with the password that it was stored with, by every machine
that has the file. Storing one wallet leaves the files of all others as they are, even where it
fails.
-/

namespace ScoreDeploy

/-! ### Keys -/

theorem Secp256k1.PrivateKey.ofBytes?_toBytes (key : PrivateKey) :
    ofBytes? key.toBytes = some key := by
  have hbound : key.toNat < 256 ^ 32 := key.lt_order.trans (by decide)
  have hnumber : Bytes.toNatBE key.toBytes = key.toNat := Bytes.toNatBE_ofNatBE hbound
  have hkey : key.toBytes.length = 32 ∧ 0 < Bytes.toNatBE key.toBytes ∧
      Bytes.toNatBE key.toBytes < order := by
    rw [hnumber]
    exact ⟨Bytes.length_ofNatBE 32 _, key.pos, key.lt_order⟩
  rw [ofBytes?, dif_pos hkey]
  simp only [hnumber]

/-! ### Machines -/

namespace Machine

/-- The machine in memory answers as it does. -/
def rule : MachineRule Machine := fun r m reply m' =>
  (reply, m') = m.answer r

/-- A run without calls is the run of the machine. -/
theorem value_eq_of_reaches {α : Type} {p q : Program effects α} {s t : Machine}
    {calls : List Call} (h : Reaches rule p s calls q t) (hcalls : calls = []) :
    Submission.refusing.value p s = Submission.refusing.value q t := by
  induction h with
  | refl => rfl
  | @host r next s _ _ _ _ _ hrule _ ih =>
    refine (Submission.refusing.value_of_ask rfl s).trans ?_
    change Submission.refusing.value (next (s.answer r).1) (s.answer r).2 = _
    rw [← hrule]
    exact ih hcalls
  | node => cases hcalls

theorem value_eq_of_yields {ε α : Type} {x : Action ε α} {s t : Machine} {r : Except ε α}
    (h : x.Yields rule s [] r t) : Submission.refusing.value x.run s = r :=
  value_eq_of_reaches h rfl

theorem reaches_value {α : Type} {p : Program effects α} (hp : p.AsksOnly Effect.IsHost)
    (m : Machine) :
    ∃ m', Reaches rule p m [] (.done (Submission.refusing.value p m)) m' := by
  induction hp generalizing m with
  | done a => exact ⟨m, .refl _ _⟩
  | @ask r next hkind _ ih =>
    cases r with
    | node base r => exact hkind.elim
    | host r =>
      obtain ⟨m', h⟩ := ih (m.answer r).1 (m.answer r).2
      exact ⟨m', .host rfl h⟩

/-- A machine that is asked nothing else comes to the value of the run. -/
theorem yields_value {ε α : Type} {x : Action ε α} (hx : x.AsksOnly Effect.IsHost)
    (m : Machine) : ∃ m', x.Yields rule m [] (Submission.refusing.value x.run m) m' :=
  reaches_value hx m

end Machine

/-! ### Unlocking -/

variable {σ : Type} {rule : MachineRule σ} {s t : σ} {fs fs' : FileSystem} {calls : List Call}
variable {path : Path} {password : String} {wallet : Wallet} {keystore : Keystore}
variable {r : Except Keystore.Error Unit}

/-- A machine fetches what the file tells. -/
theorem Keystore.yields_fetch_of_tells {m : Machine}
    (h : Workspace.Tells m.files Keystore.read path keystore) :
    (Keystore.fetch path).Yields Machine.rule m [] (.ok keystore) m := by
  obtain ⟨bytes, text, hread, htext, hkeystore⟩ := h
  refine Action.yields_host_bind.mpr ⟨.ok bytes, m, Prod.ext hread.symm rfl, ?_⟩
  simp only [htext, hkeystore]
  exact .refl _ _

/-- What comes of fetching is what the text at the path is read as; where no text is found there, it
is the error that names the path. -/
theorem Keystore.cases_of_yields_fetch {answer : Except Keystore.Error Keystore}
    (h : (Keystore.fetch path).Yields rule s calls answer t) :
    (∃ cause, answer = .error (.io path cause)) ∨
      ∃ bytes text, rule (.read path) s (.ok bytes) t ∧ Bytes.toText? bytes = some text ∧
        answer = (Keystore.read text).mapError .json := by
  obtain ⟨reply, m, hreply, h⟩ := Action.yields_host_bind.mp h
  cases reply with
  | error cause =>
    obtain ⟨-, hanswer, -⟩ := Action.yields_throw.mp h
    exact .inl ⟨cause, hanswer⟩
  | ok bytes =>
    dsimp only at h
    cases htext : Bytes.toText? bytes with
    | none =>
      rw [htext] at h
      obtain ⟨-, hanswer, -⟩ := Action.yields_throw.mp h
      exact .inl ⟨_, hanswer⟩
    | some text =>
      rw [htext] at h
      obtain ⟨-, hanswer, rfl⟩ := Action.yields_orFail.mp h
      exact .inr ⟨bytes, text, hreply, htext, hanswer⟩

theorem Keystore.tells_of_yields_fetch
    (h : (Keystore.fetch path).Yields rule s calls (.ok keystore) t)
    (hrule : ∀ bytes, rule (.read path) s (.ok bytes) t → fs.read path = .ok bytes) :
    Workspace.Tells fs Keystore.read path keystore := by
  rcases cases_of_yields_fetch h with ⟨_, he⟩ | ⟨bytes, text, hread, htext, hkeystore⟩
  · cases he
  · exact ⟨bytes, text, hrule bytes hread, htext, Except.mapError_eq_ok_iff.mp hkeystore.symm⟩

namespace Wallet

theorem ofKey_key (wallet : Wallet) : ofKey wallet.key = wallet := by
  obtain ⟨key, _, rfl⟩ := wallet
  rfl

/-- What was sealed for a wallet is unlocked as that wallet. -/
theorem unlock_of_sealWith {derivation : Derivation} {iv : Bytes}
    (h : Keystore.sealWith derivation iv wallet.key.toBytes password = .ok keystore.contents)
    (haddress : keystore.address = wallet.address) : unlock keystore password = .ok wallet := by
  have hwallet : ofBytes? wallet.key.toBytes = some wallet := by
    rw [ofBytes?, Secp256k1.PrivateKey.ofBytes?_toBytes, Option.map_some, ofKey_key]
  rw [unlock, Keystore.openWith_of_sealWith h, Except.ok_bind, ofSecret, hwallet]
  exact if_pos haddress.symm

/-- The file is a keystore file that the password unlocks as the wallet. -/
def IsKeptAt (wallet : Wallet) (files : FileSystem) (path : Path) (password : String) : Prop :=
  ∃ keystore, Workspace.Tells files Keystore.read path keystore ∧
    unlock keystore password = .ok wallet

/-- Every machine that has these files loads the wallet from that path. -/
def LoadsFrom (wallet : Wallet) (files : FileSystem) (path : Path) (password : String) : Prop :=
  ∀ m : Machine, m.files = files →
    Submission.refusing.value (load path password).run m = .ok wallet

theorem IsKeptAt.loadsFrom (h : wallet.IsKeptAt fs path password) :
    wallet.LoadsFrom fs path password := by
  obtain ⟨keystore, htells, hunlock⟩ := h
  rintro m rfl
  apply Machine.value_eq_of_yields (t := m)
  refine (Keystore.yields_fetch_of_tells htells).bind_silent ?_
  rw [hunlock]
  exact .refl _ _

theorem IsKeptAt.of_retains {touched : Place → Prop} (h : wallet.IsKeptAt fs path password)
    (hretains : FileSystem.Retains touched fs fs') (hplace : ¬touched (path.placeFrom fs.current)) :
    wallet.IsKeptAt fs' path password := by
  obtain ⟨keystore, ⟨bytes, text, hread, htext⟩, hunlock⟩ := h
  exact ⟨keystore, ⟨bytes, text, hretains.read_eq hplace hread, htext⟩, hunlock⟩

/-! ### Storing -/

/-- Whatever random bytes there are, what was made for a wallet is unlocked as that wallet. -/
theorem unlock_of_create (h : (Keystore.create wallet.key.toBytes wallet.address password).Yields
    rule s calls (.ok keystore) t) : unlock keystore password = .ok wallet := by
  obtain ⟨salt, _, -, h⟩ := Action.yields_host_bind.mp h
  obtain ⟨iv, _, -, h⟩ := Action.yields_host_bind.mp h
  rcases Action.yields_bind.mp h with ⟨_, -, he⟩ | ⟨contents, _, _, _, hseal, h, -⟩
  · cases he
  obtain ⟨random, _, -, h⟩ := Action.yields_host_bind.mp h
  obtain ⟨-, hkeystore, -⟩ := Action.yields_pure.mp h
  obtain ⟨hsealed, -, -⟩ := Reaches.of_done hseal
  obtain rfl := Except.ok.inj hkeystore
  exact unlock_of_sealWith (Program.done.inj hsealed).symm rfl

end Wallet

namespace Keystore

theorem retains_of_write
    (h : (Action.host (.write path (Bytes.ofText keystore.text)) >>= fun answer =>
      Action.orFail (.io path) answer : Action Error Unit).Yields FileSystem.rule fs calls r fs') :
    FileSystem.Retains (· = path.placeFrom fs.current) fs fs' ∧
      (r = .ok () → fs'.read path = .ok (Bytes.ofText keystore.text)) := by
  obtain ⟨answer, m, hrule, h⟩ := Action.yields_host_bind.mp h
  obtain ⟨-, rfl, rfl⟩ := Action.yields_orFail.mp h
  obtain ⟨hretains, hread⟩ := FileSystem.retains_of_rule_write hrule
  refine ⟨hretains, fun hok => hread ?_⟩
  cases answer with
  | ok _ => rfl
  | error e => cases hok

/-- Saving touches no file but its own. -/
theorem retains_of_save (h : (save path keystore).Yields FileSystem.rule fs calls r fs') :
    FileSystem.Retains (· = path.placeFrom fs.current) fs fs' ∧
      (r = .ok () → fs'.read path = .ok (Bytes.ofText keystore.text)) := by
  dsimp only [save] at h
  split at h
  · obtain ⟨answer, m, hmake, h⟩ := Action.yields_host_bind.mp h
    have hmade : FileSystem.Retains (· = path.placeFrom fs.current) fs m :=
      FileSystem.retains_of_rule_makeDirectories hmake
    rcases Action.yields_bind.mp h with ⟨e, hfail, rfl⟩ | ⟨_, _, _, _, hfail, hrest, -⟩
    · obtain ⟨-, -, rfl⟩ := Action.yields_orFail.mp hfail
      exact ⟨hmade, by rintro ⟨⟩⟩
    · obtain ⟨-, -, rfl⟩ := Action.yields_orFail.mp hfail
      obtain ⟨hwritten, hread⟩ := retains_of_write hrest
      rw [hmade.current_eq] at hwritten
      exact ⟨hmade.trans hwritten, hread⟩
  · exact retains_of_write h

end Keystore

namespace Wallet

/-- Storing a wallet touches no file but its own, and if it succeeds, the wallet is kept there. -/
theorem retains_of_store (h : (wallet.store path password).Yields FileSystem.rule fs calls r fs') :
    FileSystem.Retains (· = path.placeFrom fs.current) fs fs' ∧
      (r = .ok () → wallet.IsKeptAt fs' path password) := by
  have hlooks := Keystore.looks_create wallet.key.toBytes wallet.address password
  rcases Action.yields_bind.mp h with ⟨e, he, rfl⟩ | ⟨keystore, _, m, _, hcreate, hsave, -⟩
  · obtain rfl := hlooks.keeps.state_eq FileSystem.keepsLooking_rule he
    exact ⟨.refl _ _, by rintro ⟨⟩⟩
  · obtain rfl := hlooks.keeps.state_eq FileSystem.keepsLooking_rule hcreate
    obtain ⟨hretains, hread⟩ := Keystore.retains_of_save hsave
    refine ⟨hretains, fun hok => ⟨keystore, ?_, unlock_of_create hcreate⟩⟩
    exact ⟨_, _, hread hok, Bytes.toText?_ofText _, Keystore.read_text keystore⟩

end Wallet

end ScoreDeploy
