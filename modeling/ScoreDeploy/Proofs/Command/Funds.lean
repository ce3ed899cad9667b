import ScoreDeploy.Proofs.Command.Targets
import ScoreDeploy.Proofs.Keystore.Store

/-!
# The keys of funded accounts

Money goes to an account before its key is kept. So the key of the account that got money last can
be lost, if the run fails while the transfer is waited for or while the key is being kept. The keys
of all accounts before it are kept, and keeping a later key leaves their files alone, even if it
fails.
-/

namespace ScoreDeploy

open Json

/-! ### Accounts that got money -/

/-- The node took a transaction to that address. -/
structure Call.Funds (address : String) (call : Call) : Prop where
  method_eq : call.method = "icx_sendTransaction"
  to_eq : Members.get? call.params "to" = some (.string address)
  accepted : ∃ hash, call.HasResult (.string hash)

/-- No account got money after the one with that address. -/
def IsLastFunded (address : String) (calls : List Call) : Prop :=
  ∃ before last after, calls = before ++ last :: after ∧ last.Funds address ∧
    ∀ call ∈ after, ∀ other, ¬call.Funds other

section

variable {address other : String} {call : Call} {calls later : List Call}

theorem Call.GoesTo.eq_of_funds (hgoes : call.GoesTo address) (h : call.Funds other) :
    other = address := by
  have hmethod : call.method ≠ "icx_getTransactionResult" := by
    rw [h.method_eq]
    decide
  have hto := hgoes hmethod
  rw [h.to_eq] at hto
  exact Json.string.inj (Option.some.inj hto)

/-- Where only one account gets money, it is the last one. -/
theorem isLastFunded_of_forall_eq (hfunds : ∃ call ∈ calls, call.Funds address)
    (honly : ∀ call ∈ calls, ∀ other, call.Funds other → other = address) :
    IsLastFunded address calls := by
  -- The last call that gives money is looked for from the end.
  induction calls with
  | nil => simp at hfunds
  | cons first calls ih =>
    rw [List.forall_mem_cons] at honly
    by_cases hlater : ∃ call ∈ calls, call.Funds address
    · obtain ⟨before, last, after, rfl, hlast⟩ := ih hlater honly.2
      exact ⟨first :: before, last, after, rfl, hlast⟩
    · have hnone : ∀ call ∈ calls, ∀ other, ¬call.Funds other := by
        intro call hcall other hother
        obtain rfl := honly.2 call hcall other hother
        exact hlater ⟨call, hcall, hother⟩
      obtain ⟨call, hcall, h⟩ := hfunds
      rcases List.mem_cons.mp hcall with rfl | hcall
      · exact ⟨[], call, calls, rfl, h, hnone⟩
      · exact absurd h (hnone call hcall address)

theorem IsLastFunded.append_left (h : IsLastFunded address later) :
    IsLastFunded address (calls ++ later) := by
  obtain ⟨before, last, after, rfl, hlast⟩ := h
  exact ⟨calls ++ before, last, after, (List.append_assoc _ _ _).symm, hlast⟩

end

/-! ### Scenes -/

/-- Files, the lines that were printed, and the keys that were handed out. -/
structure Scene where
  files : FileSystem
  printed : List String
  keys : List Secp256k1.PrivateKey

namespace Scene

/-- Nothing has happened yet. -/
def start (files : FileSystem) : Scene :=
  ⟨files, [], []⟩

/-- A key was handed out. -/
def withKey (s : Scene) (key : Secp256k1.PrivateKey) : Scene :=
  { s with keys := s.keys ++ [key] }

/-- Files behave as they do, what is printed is seen, and keys are handed out. -/
def rule : MachineRule Scene := fun r s reply t =>
  FileSystem.rule r s.files reply t.files ∧
    match r, reply with
    | .print text, _ => t.printed = s.printed ++ [text] ∧ t.keys = s.keys
    | .freshKey, key =>
      t.printed = s.printed ∧ t.keys = s.keys ++ ([key] : List Secp256k1.PrivateKey)
    | _, _ => t.printed = s.printed ∧ t.keys = s.keys

theorem mayLog_rule : rule.MayLog :=
  fun _ _ => ⟨rfl, rfl, rfl⟩

section

variable {α : Type} {p q : Program effects α} {s t : Scene} {calls : List Call}

/-- Without the lines and the keys it is a run on files. -/
theorem reaches_files (h : Reaches rule p s calls q t) :
    Reaches FileSystem.rule p s.files calls q t.files := by
  induction h with
  | refl => exact .refl _ _
  | host hrule _ ih => exact .host hrule.1 ih
  | node _ ih => exact .node ih

/-- Lines and keys only come behind those that there were. -/
theorem prefix_of_reaches (h : Reaches rule p s calls q t) :
    s.printed <+: t.printed ∧ s.keys <+: t.keys := by
  induction h with
  | refl => exact ⟨List.prefix_refl _, List.prefix_refl _⟩
  | @host r _ s m _ _ _ _ hrule _ ih =>
    have hstep : s.printed <+: m.printed ∧ s.keys <+: m.keys := by
      obtain ⟨-, hlines⟩ := hrule
      cases r
      all_goals
        dsimp only at hlines
        obtain ⟨hprinted, hkeys⟩ := hlines
        rw [hprinted, hkeys]
        simp
    exact ⟨hstep.1.trans ih.1, hstep.2.trans ih.2⟩
  | node _ ih => exact ih

/-- Nothing that was printed or handed out is taken back. -/
theorem subset_of_reaches (h : Reaches rule p s calls q t) :
    s.printed ⊆ t.printed ∧ s.keys ⊆ t.keys :=
  (prefix_of_reaches h).imp List.IsPrefix.subset List.IsPrefix.subset

end

end Scene

namespace Context

open Submission

variable {storage : Option KeyStorage} {wallet wallet' : Wallet} {s t u : Scene}
variable {calls later : List Call}

/-! ### Where keys are kept -/

namespace KeyStorage

theorem isName_file (wallet : Wallet) : Path.IsName (wallet.address ++ ".json") := by
  obtain ⟨key, _, rfl⟩ := wallet
  have hdigit : ∀ n < 16, Nat.digitChar n ≠ '/' := by decide
  have hhex : ∀ bytes : Bytes, '/' ∉ Hex.encodeChars bytes := by
    intro bytes hmem
    obtain ⟨b, -, hb⟩ := List.mem_flatMap.mp hmem
    rcases List.mem_pair.mp hb with hb | hb
    · exact hdigit (b.toNat / 16) (by have := b.toNat_lt; omega) hb.symm
    · exact hdigit (b.toNat % 16) (Nat.mod_lt _ (by decide)) hb.symm
  have hslash : '/' ∉ (Wallet.ofKey key).address.toList := by
    simpa [Wallet.ofKey, Address.ofPublicKey, Hex.encode] using hhex _
  have hlength : 5 < ((Wallet.ofKey key).address ++ ".json").toList.length := by
    simp [Wallet.ofKey, Address.ofPublicKey]
  have hne : ∀ other : String, other.toList.length < 5 →
      (Wallet.ofKey key).address ++ ".json" ≠ other := by
    rintro other hother rfl
    omega
  refine ⟨hne "" (by decide), hne "." (by decide), hne ".." (by decide), ?_⟩
  rw [String.toList_append, List.mem_append, not_or]
  exact ⟨hslash, by decide⟩

/-- Different accounts have different keystore files. -/
theorem placeFrom_path_inj {storage : KeyStorage} {current : Place} :
    (storage.path wallet).placeFrom current = (storage.path wallet').placeFrom current ↔
      wallet.address = wallet'.address := by
  rw [path, path, Path.placeFrom_join (isName_file wallet),
    Path.placeFrom_join (isName_file wallet'), Place.child_inj]
  simp

end KeyStorage

/-- The key is kept in a keystore file that the password of the storage opens, or was printed. -/
def Keeps (storage : Option KeyStorage) (wallet : Wallet) (t : Scene) : Prop :=
  match storage with
  | some storage => wallet.LoadsFrom t.files (storage.path wallet) storage.password
  | none => wallet.address ++ "  key=" ++ wallet.keyText ∈ t.printed

/-- The same by what is in the keystore file, which is easier to follow through later changes. -/
def Holds (storage : Option KeyStorage) (wallet : Wallet) (t : Scene) : Prop :=
  match storage with
  | some storage => wallet.IsKeptAt t.files (storage.path wallet) storage.password
  | none => wallet.address ++ "  key=" ++ wallet.keyText ∈ t.printed

theorem Holds.keeps (h : Holds storage wallet t) : Keeps storage wallet t := by
  cases storage with
  | some storage => exact Wallet.IsKeptAt.loadsFrom h
  | none => exact h

/-- The keystore file of an account that got money lies there. -/
def Touches (storage : Option KeyStorage) (calls : List Call) (current place : Place) : Prop :=
  ∃ kept ∈ storage, ∃ wallet : Wallet, (∃ call ∈ calls, call.Funds wallet.address) ∧
    place = (kept.path wallet).placeFrom current

/-- What a part of a funding run has done, which has failed or not. -/
structure Funding (storage : Option KeyStorage) (s : Scene) (calls : List Call) (failed : Prop)
    (t : Scene) : Prop where
  /-- No files are touched but those of the accounts that got money. -/
  retains : FileSystem.Retains (Touches storage calls s.files.current) s.files t.files
  printed_subset : s.printed ⊆ t.printed
  keys_subset : s.keys ⊆ t.keys
  /-- Every account that got money has a key that was handed out. -/
  kept : ∀ call ∈ calls, ∀ address, call.Funds address →
    ∃ key ∈ t.keys, (Wallet.ofKey key).address = address ∧
      (Holds storage (Wallet.ofKey key) t ∨ failed ∧ IsLastFunded address calls)

/-- A key stays kept while other accounts get money. -/
theorem Holds.of_funding {failed : Prop} (h : Holds storage wallet s)
    (hfunding : Funding storage s calls failed t)
    (hother : ∀ call ∈ calls, ¬call.Funds wallet.address) : Holds storage wallet t := by
  cases storage with
  | none => exact hfunding.printed_subset h
  | some storage =>
    refine Wallet.IsKeptAt.of_retains h hfunding.retains ?_
    rintro ⟨_, ⟨⟩, wallet', ⟨call, hcall, hfunds⟩, hplace⟩
    rw [← KeyStorage.placeFrom_path_inj.mp hplace] at hfunds
    exact hother call hcall hfunds

theorem Funding.trans {failed : Prop} (h : Funding storage s calls False t)
    (h' : Funding storage t later failed u) : Funding storage s (calls ++ later) failed u := by
  have htouches : ∀ {part : List Call}, part ⊆ calls ++ later → ∀ place,
      Touches storage part s.files.current place →
        Touches storage (calls ++ later) s.files.current place := by
    rintro part hpart place ⟨kept, hkept, wallet, ⟨call, hcall, hfunds⟩, rfl⟩
    exact ⟨kept, hkept, wallet, ⟨call, hpart hcall, hfunds⟩, rfl⟩
  refine ⟨?_, ?_, ?_, ?_⟩
  · have hlater := h'.retains
    rw [h.retains.current_eq] at hlater
    exact (h.retains.mono (htouches (List.subset_append_left _ _))).trans
      (hlater.mono (htouches (List.subset_append_right _ _)))
  · exact List.Subset.trans h.printed_subset h'.printed_subset
  · exact List.Subset.trans h.keys_subset h'.keys_subset
  · intro call hcall address hfunds
    -- An account that gets money again is one of the later ones.
    by_cases hagain : ∃ call ∈ later, call.Funds address
    · obtain ⟨call', hcall', hfunds'⟩ := hagain
      obtain ⟨key, hkey, haddress, hholds⟩ := h'.kept call' hcall' address hfunds'
      exact ⟨key, hkey, haddress, hholds.imp_right fun ⟨hfailed, hlast⟩ =>
        ⟨hfailed, hlast.append_left⟩⟩
    · have hnot : ∀ call ∈ later, ¬call.Funds address := fun call hcall hfunds =>
        hagain ⟨call, hcall, hfunds⟩
      rcases List.mem_append.mp hcall with hcall | hcall
      · obtain ⟨key, hkey, rfl, hholds | ⟨hfalse, -⟩⟩ := h.kept call hcall address hfunds
        · exact ⟨key, h'.keys_subset hkey, rfl, .inl (hholds.of_funding h' hnot)⟩
        · exact hfalse.elim
      · exact absurd hfunds (hnot call hcall)

/-! ### Keeping a key -/

variable {ctx : Context} {signer : Signer} {amount : Loop}

/-- Keeping a key touches no file but its own, and if it succeeds, the key is kept. -/
theorem holds_of_keepKey {r : Except Failure Unit}
    (h : (keepKey storage wallet).Yields Scene.rule s calls r t) :
    FileSystem.Retains (fun place => ∃ kept ∈ storage,
        place = (kept.path wallet).placeFrom s.files.current) s.files t.files ∧
      (r = .ok () → Holds storage wallet t) := by
  cases storage with
  | none =>
    obtain ⟨_, ⟨hfiles, hprinted, -⟩, -, -⟩ := Action.yields_host.mp h
    obtain hfiles : t.files = s.files := hfiles
    rw [hfiles, Holds, hprinted]
    exact ⟨.refl _ _, fun _ => List.mem_append_right _ (List.mem_singleton_self _)⟩
  | some kept =>
    have hstored : ∀ {calls r m},
        (onKeystore (wallet.store (kept.path wallet) kept.password)).Yields Scene.rule s calls r m →
          FileSystem.Retains (· = (kept.path wallet).placeFrom s.files.current) s.files m.files ∧
            (r = .ok () → wallet.IsKeptAt m.files (kept.path wallet) kept.password) := by
      intro calls r m h
      obtain ⟨v, hstore, rfl⟩ := Action.yields_mapError.mp h
      obtain ⟨hretains, hkept⟩ := Wallet.retains_of_store (Scene.reaches_files hstore)
      refine ⟨hretains, fun hok => hkept ?_⟩
      cases v with
      | ok _ => rfl
      | error e => cases hok
    simp only [Option.mem_def, Option.some.injEq, exists_eq_left']
    rcases Action.yields_bind.mp h with ⟨e, he, rfl⟩ | ⟨_, _, m, _, hstore, hprint, -⟩
    · exact ⟨(hstored he).1, by rintro ⟨⟩⟩
    · obtain ⟨_, ⟨hfiles, -⟩, -, -⟩ := Action.yields_host.mp hprint
      obtain hfiles : t.files = m.files := hfiles
      obtain ⟨hretains, hkept⟩ := hstored hstore
      rw [Holds, hfiles]
      exact ⟨hretains, fun _ => hkept rfl⟩

/-- A run that ends by keeping a key makes no calls, and fails if the key is not kept. -/
theorem holds_of_keepKey_bind {α : Type} {a : α} {r : Except Failure α}
    (h : (keepKey storage wallet >>= fun _ => pure a).Yields Scene.rule s calls r t) :
    calls = [] ∧ FileSystem.Retains (fun place => ∃ kept ∈ storage,
        place = (kept.path wallet).placeFrom s.files.current) s.files t.files ∧
      (Holds storage wallet t ∨ ∃ e, r = .error e) := by
  rcases (isHost_keepKey storage wallet).yields_bind h with
    ⟨e, hkeep, hcalls, hr⟩ | ⟨_, m, hkeep, h⟩
  · exact ⟨hcalls, (holds_of_keepKey hkeep).1, .inr ⟨e, hr⟩⟩
  · obtain ⟨hcalls, -, rfl⟩ := Action.yields_pure.mp h
    obtain ⟨hretains, hholds⟩ := holds_of_keepKey hkeep
    exact ⟨hcalls, hretains, .inl (hholds rfl)⟩

/-! ### Funding -/

/-- A transfer gives money to no account but its recipient, and if it is confirmed, to that one. -/
theorem funds_of_confirmed {recipient : String} {r : Except Failure (String × Receipt)}
    (h : (ctx.confirmed (pure ⟨signer, .transfer recipient amount none⟩)).Yields Scene.rule s calls
      r t) :
    t.files = s.files ∧ (∀ call ∈ calls, ∀ address, call.Funds address → address = recipient) ∧
      ∀ outcome, r = .ok outcome → ∃ call ∈ calls, call.Funds recipient := by
  refine ⟨(keeps_confirmed ctx (.pure _)).state_eq FileSystem.keepsLooking_rule
    (Scene.reaches_files h), ?_⟩
  rcases goesTo_of_confirmed (.pure _) h with ⟨e, rfl, rfl⟩ | ⟨prepared, _, hprepared, hgoes⟩
  · exact ⟨List.forall_mem_nil _, fun _ hr => nomatch hr⟩
  obtain ⟨-, hprepared, -⟩ := Action.yields_pure.mp hprepared
  obtain rfl := Except.ok.inj hprepared
  refine ⟨fun call hcall address hfunds => (hgoes call hcall).eq_of_funds hfunds, ?_⟩
  intro outcome hr
  obtain ⟨-, hends⟩ := isLimited_of_confirmed (.pure _) (.pure rfl) h
  obtain ⟨calls₁, _, rfl, -, hconfirmed⟩ := hends outcome hr
  cases hconfirmed with
  | @intro send last hash gets hsend hhash _ _ =>
    have hmem : send ∈ calls₁ ++ send :: (gets ++ [last]) :=
      List.mem_append_right _ List.mem_cons_self
    have hmethod : send.method ≠ "icx_getTransactionResult" := by
      rw [hsend.method_eq]
      decide
    exact ⟨send, hmem, hsend.method_eq, hgoes send hmem hmethod, hash, hhash⟩

variable {failed failed' : Prop} {key : Secp256k1.PrivateKey}

theorem Funding.mono (h : Funding storage s calls failed t) (himp : failed → failed') :
    Funding storage s calls failed' t := by
  refine ⟨h.retains, h.printed_subset, h.keys_subset, fun call hcall address hfunds => ?_⟩
  obtain ⟨key, hkey, haddress, hholds⟩ := h.kept call hcall address hfunds
  exact ⟨key, hkey, haddress, hholds.imp_right (And.imp_left himp)⟩

/-- Where only one account gets money, its key is kept or the run fails. -/
theorem funding_of_forall_eq (hprinted : s.printed ⊆ t.printed) (hkeys : s.keys ⊆ t.keys)
    (hretains : FileSystem.Retains (Touches storage calls s.files.current) s.files t.files)
    (hkey : key ∈ t.keys)
    (honly : ∀ call ∈ calls, ∀ address, call.Funds address → address = (Wallet.ofKey key).address)
    (hends : Holds storage (Wallet.ofKey key) t ∨ failed) : Funding storage s calls failed t := by
  refine ⟨hretains, hprinted, hkeys, fun call hcall address hfunds => ?_⟩
  obtain rfl := honly call hcall address hfunds
  exact ⟨key, hkey, rfl, hends.imp_right fun hfailed =>
    ⟨hfailed, isLastFunded_of_forall_eq ⟨call, hcall, hfunds⟩ honly⟩⟩

/-- One account gets money, and then its key is kept, or the run fails. -/
theorem funding_of_fundOne {r : Except Failure FundedAccount}
    (h : (ctx.fundOne signer amount storage).Yields Scene.rule s calls r t) :
    Funding storage s calls (∃ e, r = .error e) t := by
  obtain ⟨hprinted, hkeys⟩ := Scene.subset_of_reaches h
  rw [fundOne_eq] at h
  obtain ⟨key, m, ⟨hfiles, -, hfresh⟩, h⟩ := Action.yields_host_bind.mp h
  obtain hfiles : m.files = s.files := hfiles
  have hkey : key ∈ t.keys := by
    apply (Scene.subset_of_reaches h).2
    rw [hfresh]
    exact List.mem_append_right _ (List.mem_singleton_self _)
  rcases Action.yields_bind.mp h with
    ⟨e, hconfirmed, rfl⟩ | ⟨⟨hash, receipt⟩, _, m', _, hconfirmed, hfinish, rfl⟩
  · obtain ⟨hsame, honly, -⟩ := funds_of_confirmed hconfirmed
    refine funding_of_forall_eq hprinted hkeys ?_ hkey honly (.inr ⟨e, rfl⟩)
    rw [hsame, hfiles]
    exact .refl _ _
  · obtain ⟨hsame, honly, hfunded⟩ := funds_of_confirmed hconfirmed
    change (keepKey storage (Wallet.ofKey key) >>= fun _ =>
      pure (FundedAccount.mk (Wallet.ofKey key) hash)).Yields Scene.rule m' _ r t at hfinish
    obtain ⟨rfl, hretains, hends⟩ := holds_of_keepKey_bind hfinish
    rw [List.append_nil]
    rw [hsame, hfiles] at hretains
    refine funding_of_forall_eq hprinted hkeys (hretains.mono ?_) hkey honly hends
    intro place hplace
    obtain ⟨kept, hkept, hplace⟩ := hplace
    exact ⟨kept, hkept, Wallet.ofKey key, hfunded _ rfl, hplace⟩

/-- Accounts get money one after another, and the key of each is kept before the next one. -/
theorem funding_of_fundMany {count : Nat} {done : List FundedAccount}
    {r : Except Failure (List FundedAccount)}
    (h : (ctx.fundMany signer amount storage count done).Yields Scene.rule s calls r t) :
    Funding storage s calls (∃ e, r = .error e) t := by
  induction count generalizing done s calls with
  | zero =>
    obtain ⟨rfl, -, rfl⟩ := Action.yields_pure.mp h
    exact ⟨.refl _ _, List.Subset.refl _, List.Subset.refl _, List.forall_mem_nil _⟩
  | succ count ih =>
    rcases Action.yields_bind.mp h with ⟨e, hone, rfl⟩ | ⟨account, _, m, _, hone, hmany, rfl⟩
    · exact (funding_of_fundOne hone).mono fun _ => ⟨e, rfl⟩
    · have hkept : Funding storage s _ False m :=
        (funding_of_fundOne hone).mono fun ⟨_, he⟩ => nomatch he
      exact hkept.trans (ih hmany)

/-- Whatever nodes reply and however operations on files fail: where a funding run ends, every
account that got money has a key that was handed out, and that key is kept, unless the run has
failed and no account got money after that one. -/
theorem fund_keeps_keys {count : UInt32} {files : FileSystem}
    {r : Except Failure (List FundedAccount)}
    (h : (ctx.fund count amount storage).Yields Scene.rule (.start files) calls r t) :
    ∀ call ∈ calls, ∀ address, call.Funds address →
      ∃ key ∈ t.keys, (Wallet.ofKey key).address = address ∧
        (Keeps storage (Wallet.ofKey key) t ∨
          (∃ e, r = .error e) ∧ IsLastFunded address calls) := by
  have hfunding : calls = [] ∨ Funding storage (.start files) calls (∃ e, r = .error e) t := by
    rw [fund] at h
    split at h
    · exact .inl (Action.yields_throw.mp h).1
    · rcases (looks_requireSigner ctx).isHost.yields_bind h with
        ⟨_, -, rfl, -⟩ | ⟨_, m, hsigner, hmany⟩
      · exact .inl rfl
      · obtain rfl : m = .start files := by
          rw [requireSigner] at hsigner
          split at hsigner
          · exact (Action.yields_pure.mp hsigner).2.2
          · exact (Action.yields_throw.mp hsigner).2.2
        exact .inr (funding_of_fundMany hmany)
  intro call hcall address hfunds
  rcases hfunding with rfl | hfunding
  · cases hcall
  · obtain ⟨key, hkey, haddress, hholds⟩ := hfunding.kept call hcall address hfunds
    exact ⟨key, hkey, haddress, hholds.imp_left Holds.keeps⟩

/-! ### One account -/

/-- A local network, where a signer that needs no key gives money and asks once what became of
it. -/
def lending : Context :=
  { scribbling with
    network := "localhost", terms := { scribbling.terms with patience.attempts := 1 } }

/-- The money that is given. -/
def loan : Loop :=
  ⟨1000, by decide⟩

theorem yields_transfer_taken (s : Scene) (recipient : String) : ∃ signed,
    (taken signed).Funds recipient ∧ (Submission.transfer lending.terms Operation.scribble recipient
      loan none).Yields Scene.rule s [taken signed] (.ok "0xab") s := by
  let op : Operation := .transfer recipient loan none
  let tx : Transaction := op.transaction Operation.scribble.address 3 7
  obtain ⟨signed, hsigned⟩ : ∃ signed, tx.sign? 100000 Operation.scribble = some signed := ⟨_, rfl⟩
  have hsubmits : Submits lending.terms tx Operation.scribble (some 100000) [taken signed]
      (.ok "0xab") :=
    .limited (.given 100000) (.accepted hsigned ⟨_, rfl, rfl⟩)
  have hyields : (op.perform lending.terms Operation.scribble).Yields Scene.rule s [taken signed]
      (.ok "0xab") s :=
    Action.yields_host_bind.mpr
      ⟨(7 : Int64), s, ⟨rfl, rfl, rfl⟩, hsubmits.yields Scene.mayLog_rule⟩
  refine ⟨signed, ⟨rfl, ?_, ⟨"0xab", _, rfl, rfl⟩⟩, hyields⟩
  exact Operation.to_eq_of_mem hyields _ (List.mem_singleton_self _)

/-- The node takes the transfer, and then it is waited for. -/
theorem exists_yields_confirmed_lending {recipient : String} {gets : List Call}
    {r : Except Failure (String × Receipt)}
    (hwait : (do
      let receipt ← lending.confirm "0xab"
      return ("0xab", receipt) : Step (String × Receipt)).Yields Scene.rule s gets r s) :
    ∃ signed, (taken signed).Funds recipient ∧
      (lending.confirmed (pure ⟨Operation.scribble, .transfer recipient loan none⟩)).Yields
        Scene.rule s (taken signed :: gets) r s := by
  obtain ⟨signed, hfunds, htransfer⟩ := yields_transfer_taken s recipient
  have hprepared : (pure ⟨Operation.scribble, .transfer recipient loan none⟩ :
      Step Prepared).Yields Scene.rule s [] (.ok _) s := .refl _ _
  exact ⟨signed, hfunds,
    hprepared.bind_silent ((Action.yields_mapError_ok.mpr htransfer).bind hwait)⟩

/-- A run for one account is a run of `fundOne`. -/
theorem yields_fund_lending {r : Except Failure FundedAccount} {files : FileSystem}
    (h : (lending.fundOne Operation.scribble loan storage).Yields Scene.rule (.start files)
      calls r t) :
    (lending.fund 1 loan storage).Yields Scene.rule (.start files) calls
      (r.map fun account => [account]) t := by
  have hlocal : Endpoint.isLocal lending.network = true := by decide
  have hmany : (lending.fundMany Operation.scribble loan storage 1 []).Yields Scene.rule
      (.start files) calls (r.map fun account => [account]) t := by
    refine Action.yields_bind.mpr ?_
    cases r with
    | error e => exact .inl ⟨e, h, rfl⟩
    | ok account => exact .inr ⟨account, calls, t, [], h, .refl _ _, (List.append_nil _).symm⟩
  rw [fund, if_neg (not_not_intro hlocal)]
  exact hmany

/-- The node tells what became of the transfer. -/
def told (reply : Json) : Call :=
  ⟨"http://node", .outcome "0xab", .ok reply⟩

/-- The node confirms the transfer. -/
def toldSuccess : Call :=
  told (.object [("result", .object [("status", .string "0x1")])])

/-- Once the transfer to a new account is confirmed, its key is kept. -/
theorem exists_yields_fundOne_confirmed
    (hkeep : (keepKey storage (Wallet.ofKey key)).Yields Scene.rule (s.withKey key) []
      (.ok ()) t) :
    ∃ signed, (taken signed).Funds (Wallet.ofKey key).address ∧
      (lending.fundOne Operation.scribble loan storage).Yields Scene.rule s
        [taken signed, toldSuccess] (.ok ⟨Wallet.ofKey key, "0xab"⟩) t := by
  have hconfirm : (Submission.confirm lending.terms "0xab" false).Yields Scene.rule
      (s.withKey key) ([toldSuccess] ++ []) (.ok ⟨"0x1", none, none, []⟩)
      (s.withKey key) := by
    rw [Submission.confirm, confirmFrom.eq_def]
    exact Action.Yields.bind (.node (.refl _ _))
      (Action.yields_log_bind Scene.mayLog_rule (.refl _ _))
  obtain ⟨signed, hfunds, hconfirmed⟩ := exists_yields_confirmed_lending
    ((Action.yields_mapError_ok.mpr hconfirm).bind (.refl _ _))
  refine ⟨signed, hfunds, ?_⟩
  rw [fundOne_eq]
  refine Action.yields_host_bind.mpr ⟨key, s.withKey key, ⟨rfl, rfl, rfl⟩, ?_⟩
  exact hconfirmed.bind (hkeep.bind_silent (.refl _ _))

/-- The node confirms the transfer to an account, and its key is printed. -/
theorem fund_keeps_keys_printed : ∃ signed t r,
    (lending.fund 1 loan none).Yields Scene.rule (.start ⟨[], .root⟩)
        [taken signed, toldSuccess] (.ok r) t ∧
      ∃ key ∈ t.keys, (taken signed).Funds (Wallet.ofKey key).address ∧
        Keeps none (Wallet.ofKey key) t := by
  obtain ⟨key⟩ : Nonempty Secp256k1.PrivateKey := ⟨.least⟩
  let t : Scene := ⟨⟨[], .root⟩,
    [(Wallet.ofKey key).address ++ "  key=" ++ (Wallet.ofKey key).keyText], [key]⟩
  have hkeep : (keepKey none (Wallet.ofKey key)).Yields Scene.rule
      ((Scene.start ⟨[], .root⟩).withKey key) [] (.ok ()) t :=
    Action.yields_host.mpr ⟨(), ⟨rfl, rfl, rfl⟩, rfl, rfl⟩
  obtain ⟨signed, hfunds, hone⟩ := exists_yields_fundOne_confirmed hkeep
  obtain ⟨key', hkey', haddress, hkeeps | ⟨⟨_, he⟩, -⟩⟩ :=
    fund_keeps_keys (yields_fund_lending hone) _ List.mem_cons_self _ hfunds
  · exact ⟨signed, t, _, yields_fund_lending hone, key', hkey', haddress.symm ▸ hfunds, hkeeps⟩
  · cases he

/-- What a node says as long as it knows no outcome. -/
def pending : Json :=
  .object [("code", .number (.integer ⟨-31002, by decide⟩)), ("message", .string "Pending")]

/-- The node takes the transfer to an account and knows no outcome at the only attempt: the run
ends, and the key is lost. -/
theorem fund_keeps_keys_lost : ∃ signed key t,
    (lending.fund 1 loan none).Yields Scene.rule (.start ⟨[], .root⟩)
        [taken signed, told (.object [("error", pending)])]
        (.error (.submission (.unavailable 1 pending))) t ∧
      (taken signed).Funds (Wallet.ofKey key).address ∧
      ∀ wallet, ¬Keeps none wallet t := by
  obtain ⟨key⟩ : Nonempty Secp256k1.PrivateKey := ⟨.least⟩
  let t : Scene := (Scene.start ⟨[], .root⟩).withKey key
  have hconfirm : (Submission.confirm lending.terms "0xab" false).Yields Scene.rule t
      ([told (.object [("error", pending)])] ++ []) (.error (.unavailable 1 pending)) t := by
    rw [Submission.confirm, confirmFrom.eq_def]
    exact Action.Yields.bind (.node (.refl _ _))
      (Action.yields_log_bind Scene.mayLog_rule (.refl _ _))
  obtain ⟨signed, hfunds, hconfirmed⟩ := exists_yields_confirmed_lending
    (Action.yields_bind.mpr (.inl ⟨_, Action.yields_mapError_error.mpr ⟨_, hconfirm, rfl⟩, rfl⟩))
  have hone : (lending.fundOne Operation.scribble loan none).Yields Scene.rule (.start ⟨[], .root⟩)
      [taken signed, told (.object [("error", pending)])]
      (.error (.submission (.unavailable 1 pending))) t := by
    rw [fundOne_eq]
    refine Action.yields_host_bind.mpr ⟨key, t, ⟨rfl, rfl, rfl⟩, ?_⟩
    exact Action.yields_bind.mpr (.inl ⟨_, hconfirmed, rfl⟩)
  exact ⟨signed, key, t, yields_fund_lending hone, hfunds, fun _ => List.not_mem_nil⟩

end Context

end ScoreDeploy
