import ScoreDeploy.Proofs.Command.Funds
import ScoreDeploy.Proofs.Keystore.Unlocking

/-!
# What a funding run reports

A funding run that succeeds reports as many accounts as were asked for, in the order in which they
got their money. Its calls fall into one part for each account: the transfer to it, and the wait
that confirms this transfer before the next one is sent.
-/

namespace ScoreDeploy

open Json

/-! ### Addresses of accounts -/

theorem Keccak.length_sha3 (message : Bytes) : (Keccak.sha3 message).length = 32 := by
  simp [Keccak.sha3, Keccak.digest, Bytes.length_ofNatLE]

theorem Hex.isDigit_of_mem_encodeChars {bytes : Bytes} {c : Char} (h : c ∈ Hex.encodeChars bytes) :
    Address.isDigit c = true := by
  have hdigit : ∀ n < 16, Address.isDigit (Nat.digitChar n) = true := by decide
  obtain ⟨n, hn, rfl⟩ := Hex.exists_digitChar_of_mem_encodeChars h
  exact hdigit n hn

theorem Hex.length_encodeChars (bytes : Bytes) :
    (Hex.encodeChars bytes).length = 2 * bytes.length := by
  simp [Hex.encodeChars, Hex.encodeByte, List.length_flatMap, Nat.mul_comm]

theorem Address.isValid_ofPublicKey (key : Secp256k1.PublicKey) :
    Address.isValid (Address.ofPublicKey key) = true := by
  let body := Hex.encodeChars ((Keccak.sha3 key.coordinateBytes).drop 12)
  have htext : (Address.ofPublicKey key).toList = 'h' :: 'x' :: body := by
    simp [Address.ofPublicKey, Hex.encode, body]
  have hlength : body.length = 40 := by
    rw [Hex.length_encodeChars, List.length_drop, Keccak.length_sha3]
  rw [Address.isValid, htext]
  change Address.isBody body = true
  rw [Address.isBody, Bool.and_eq_true, beq_iff_eq, List.all_eq_true]
  exact ⟨hlength, fun c hc => Hex.isDigit_of_mem_encodeChars hc⟩

theorem Wallet.eq_of_key_eq {wallet other : Wallet} (h : wallet.key = other.key) :
    wallet = other := by
  rw [← wallet.ofKey_key, h, other.ofKey_key]

theorem Submission.Confirms.status_eq {hash : String} {reply : Except Node.Error Json}
    {receipt : Receipt} (h : Confirms hash reply receipt) : receipt.status = "0x1" := by
  cases h.decides with
  | confirmed _ _ hstatus => exact hstatus

namespace Context

open Submission

/-! ### One account -/

/-- The calls that give an account its money: one transfer with nothing but the amount, which the
node takes under the hash of the account, and the wait for this hash, until the last reply confirms
it. -/
inductive Pays (terms : Terms) (signer : Signer) (amount : Loop) (account : FundedAccount) :
    List Call → Prop
  | intro {send last : Call} {gets : List Call} {receipt : Receipt} : IsSend terms send →
      (Operation.transfer account.wallet.address amount none).Describes signer.address terms.network
        terms.limits.transfer send.params →
      send.HasResult (.string account.hash) → IsWait terms account.hash (gets ++ [last]) →
      Confirms account.hash last.reply receipt → receipt.status = "0x1" →
      Pays terms signer amount account (send :: (gets ++ [last]))

variable {terms : Terms} {ctx : Context} {signer : Signer} {amount : Loop}
variable {storage : Option KeyStorage} {account : FundedAccount} {accounts : List FundedAccount}
variable {s t : Scene} {calls : List Call} {parts : List (List Call)}

/-- Only the account itself gets money. -/
theorem Pays.eq_of_funds (h : Pays terms signer amount account calls) {call : Call}
    (hcall : call ∈ calls) {address : String} (hfunds : call.Funds address) :
    address = account.wallet.address := by
  cases h with
  | intro _ hdescribes _ hwait _ _ =>
    rcases List.mem_cons.mp hcall with rfl | hcall
    · exact Json.string.inj (Option.some.inj (hfunds.to_eq.symm.trans hdescribes.to_eq))
    · have hmethod := (hwait.asks call hcall).method_eq
      rw [hfunds.method_eq] at hmethod
      exact absurd hmethod (by decide)

theorem Pays.countP_eq_one (h : Pays terms signer amount account calls) :
    calls.countP (·.method == "icx_sendTransaction") = 1 := by
  cases h with
  | intro hsend _ _ hwait _ _ =>
    rw [List.countP_cons_of_pos (by simp [hsend.method_eq])]
    simp only [Nat.add_eq_right, List.countP_eq_zero]
    intro call hcall
    simp [(hwait.asks call hcall).method_eq]

/-- A transfer that the node takes is one call, under the limit for transfers. -/
theorem exists_send_of_transfer {σ : Type} {rule : MachineRule σ} {s t : σ}
    {recipient hash : String}
    (h : ((Operation.transfer recipient amount none).perform terms signer).Yields rule s calls
      (.ok hash) t) :
    ∃ send, calls = [send] ∧ IsSend terms send ∧ send.HasResult (.string hash) ∧
      (Operation.transfer recipient amount none).Describes signer.address terms.network
        terms.limits.transfer send.params := by
  obtain ⟨now, hsubmits⟩ := Operation.exists_submits h
  cases hsubmits with
  | limited hlimits hsends =>
    cases hlimits with
    | given =>
      cases hsends with
      | accepted hsigned hhash =>
        exact ⟨_, rfl, ⟨rfl, rfl⟩, hhash, Operation.describes_signed hsigned⟩

theorem pays_of_confirmed {σ : Type} {rule : MachineRule σ} {s t : σ} {wallet : Wallet}
    {hash : String} {receipt : Receipt}
    (h : (ctx.confirmed (pure ⟨signer, .transfer wallet.address amount none⟩)).Yields rule s calls
      (.ok (hash, receipt)) t) : Pays ctx.terms signer amount ⟨wallet, hash⟩ calls := by
  rcases cases_of_confirmed (.pure _) h with ⟨_, -, he⟩ | ⟨prepared, m, hprepared, hrest⟩
  · cases he
  obtain ⟨-, hprepared, -⟩ := Action.yields_pure.mp hprepared
  obtain rfl := Except.ok.inj hprepared
  rcases hrest with ⟨_, _, he, -⟩ | ⟨taken, _, sent, gets, rfl, hperform, hwait, hlast⟩
  · cases he
  obtain ⟨rfl, before, last, rfl, hconfirms⟩ := hlast _ rfl
  obtain ⟨send, rfl, hsend, hhash, hdescribes⟩ := exists_send_of_transfer hperform
  exact .intro hsend hdescribes hhash hwait hconfirms hconfirms.status_eq

/-- An account that is made gets its money, and then its key is kept. -/
theorem pays_of_fundOne
    (h : (ctx.fundOne signer amount storage).Yields Scene.rule s calls (.ok account) t) :
    Pays ctx.terms signer amount account calls ∧ Holds storage account.wallet t ∧
      s.keys ++ [account.wallet.key] <+: t.keys := by
  rw [fundOne_eq] at h
  obtain ⟨key, m, ⟨-, -, hfresh⟩, h⟩ := Action.yields_host_bind.mp h
  have hkeys : m.keys <+: t.keys := (Scene.prefix_of_reaches h).2
  rcases Action.yields_bind.mp h with
    ⟨_, -, he⟩ | ⟨⟨hash, receipt⟩, sent, m', _, hconfirmed, hfinish, rfl⟩
  · cases he
  change (keepKey storage (Wallet.ofKey key) >>= fun _ =>
    pure (FundedAccount.mk (Wallet.ofKey key) hash)).Yields Scene.rule m' _ _ t at hfinish
  rcases (isHost_keepKey storage _).yields_bind hfinish with ⟨_, -, -, he⟩ | ⟨_, u, hkeep, hpure⟩
  · cases he
  obtain ⟨rfl, haccount, rfl⟩ := Action.yields_pure.mp hpure
  obtain rfl := Except.ok.inj haccount
  rw [List.append_nil]
  exact ⟨pays_of_confirmed hconfirmed, (holds_of_keepKey hkeep).2 rfl, hfresh ▸ hkeys⟩

/-! ### All accounts -/

/-- The wallet of the account has the property, or that of another account has it which has the same
address but another key: an address is a digest cut to twenty bytes, and the accounts of one address
share one keystore file. -/
def Among (kept : Wallet → Prop) (accounts : List FundedAccount) (account : FundedAccount) : Prop :=
  kept account.wallet ∨ ∃ other ∈ accounts, other.wallet.address = account.wallet.address ∧
    other.wallet.key ≠ account.wallet.key ∧ kept other.wallet

theorem Among.mono {kept kept' : Wallet → Prop} {others : List FundedAccount}
    (h : Among kept accounts account) (hkept : ∀ wallet, kept wallet → kept' wallet)
    (hsubset : accounts ⊆ others) : Among kept' others account := by
  rcases h with h | ⟨other, hother, haddress, hkey, h⟩
  · exact .inl (hkept _ h)
  · exact .inr ⟨other, hsubset hother, haddress, hkey, hkept _ h⟩

/-- What a run has done that made those accounts. -/
structure Makes (ctx : Context) (signer : Signer) (amount : Loop) (storage : Option KeyStorage)
    (s : Scene) (accounts : List FundedAccount) (parts : List (List Call)) (t : Scene) : Prop where
  pays : List.Forall₂ (Pays ctx.terms signer amount) accounts parts
  keys : (s.keys ++ accounts.map (·.wallet.key)).Sublist t.keys
  kept : ∀ account ∈ accounts, Among (Holds storage · t) accounts account

/-- Only accounts that were made get money. -/
theorem exists_address_of_funds (h : List.Forall₂ (Pays terms signer amount) accounts parts)
    {call : Call} (hcall : call ∈ parts.flatten) {address : String} (hfunds : call.Funds address) :
    ∃ account ∈ accounts, account.wallet.address = address := by
  induction h with
  | nil => cases hcall
  | @cons account part _ _ hpays _ ih =>
    rw [List.flatten_cons, List.mem_append] at hcall
    rcases hcall with hcall | hcall
    · exact ⟨account, List.mem_cons_self, (hpays.eq_of_funds hcall hfunds).symm⟩
    · obtain ⟨other, hother, haddress⟩ := ih hcall
      exact ⟨other, List.mem_cons_of_mem account hother, haddress⟩

theorem countP_flatten_eq_length (h : List.Forall₂ (Pays terms signer amount) accounts parts) :
    parts.flatten.countP (·.method == "icx_sendTransaction") = accounts.length := by
  induction h with
  | nil => rfl
  | cons hpays _ ih =>
    rw [List.flatten_cons, List.countP_append, hpays.countP_eq_one, ih, List.length_cons,
      Nat.add_comm]

/-- The key of an account stays kept while other accounts are made, unless one of them has its
address. -/
theorem Holds.among_of_makes {failed : Prop} (h : Holds storage account.wallet s)
    (hfunding : Funding storage s parts.flatten failed t)
    (hmade : ctx.Makes signer amount storage s accounts parts t) :
    Among (Holds storage · t) accounts account := by
  by_cases hagain : ∃ call ∈ parts.flatten, call.Funds account.wallet.address
  · obtain ⟨call, hcall, hfunds⟩ := hagain
    obtain ⟨other, hother, haddress⟩ := exists_address_of_funds hmade.pays hcall hfunds
    -- The last account with this address is the one whose key is kept.
    obtain ⟨last, hlast, hsame, hholds⟩ : ∃ last ∈ accounts,
        last.wallet.address = account.wallet.address ∧ Holds storage last.wallet t := by
      rcases hmade.kept other hother with hholds | ⟨last, hlast, hsame, -, hholds⟩
      · exact ⟨other, hother, haddress, hholds⟩
      · exact ⟨last, hlast, hsame.trans haddress, hholds⟩
    by_cases hkey : last.wallet.key = account.wallet.key
    · exact .inl (Wallet.eq_of_key_eq hkey ▸ hholds)
    · exact .inr ⟨last, hlast, hsame, hkey, hholds⟩
  · exact .inl (h.of_funding hfunding fun call hcall hfunds => hagain ⟨call, hcall, hfunds⟩)

/-- Account by account; those that come later leave what is kept alone. -/
theorem exists_makes_of_fundMany {count : Nat} {done : List FundedAccount}
    (h : (ctx.fundMany signer amount storage count done).Yields Scene.rule s calls (.ok accounts)
      t) :
    ∃ made parts, accounts = done.reverse ++ made ∧ made.length = count ∧ calls = parts.flatten ∧
      ctx.Makes signer amount storage s made parts t := by
  induction count generalizing done s calls with
  | zero =>
    obtain ⟨rfl, haccounts, rfl⟩ := Action.yields_pure.mp h
    obtain rfl := Except.ok.inj haccounts
    refine ⟨[], [], (List.append_nil _).symm, rfl, rfl, .nil, ?_, List.forall_mem_nil _⟩
    simp
  | succ count ih =>
    rcases Action.yields_bind.mp h with ⟨_, -, he⟩ | ⟨account, part, m, later, hone, hmany, rfl⟩
    · cases he
    obtain ⟨hpays, hholds, hkeys⟩ := pays_of_fundOne hone
    obtain ⟨made, parts, rfl, hlength, rfl, hmade⟩ := ih hmany
    refine ⟨account :: made, part :: parts, ?_, ?_, rfl, .cons hpays hmade.pays, ?_, ?_⟩
    · simp
    · rw [List.length_cons, hlength]
    · have hbefore := hkeys.sublist.append_right (made.map (·.wallet.key))
      rw [List.append_assoc, List.singleton_append] at hbefore
      exact hbefore.trans hmade.keys
    · have hlater : ∀ other, Among (Holds storage · t) made other →
          Among (Holds storage · t) (account :: made) other :=
        fun _ h => h.mono (fun _ => id) (List.subset_cons_self _ _)
      refine List.forall_mem_cons.mpr ⟨?_, fun other hother => hlater _ (hmade.kept other hother)⟩
      exact hlater _ (hholds.among_of_makes (funding_of_fundMany hmany) hmade)

/-- What there is to a report of that many accounts. -/
structure Reports (ctx : Context) (signer : Signer) (amount : Loop) (storage : Option KeyStorage)
    (count : Nat) (accounts : List FundedAccount) (calls : List Call) (t : Scene) : Prop where
  length_eq : accounts.length = count
  /-- As many transactions were sent. -/
  countP_eq : calls.countP (·.method == "icx_sendTransaction") = count
  /-- The calls are those for one account after another, in the order of the report. -/
  pays : ∃ parts, calls = parts.flatten ∧ List.Forall₂ (Pays ctx.terms signer amount) accounts parts
  isValid : ∀ account ∈ accounts, Address.isValid account.wallet.address = true
  /-- The keys were handed out in this order. -/
  keys : (accounts.map (·.wallet.key)).Sublist t.keys
  /-- The keystore file of the address is opened by the password, or the key was printed. -/
  kept : ∀ account ∈ accounts, Among (Keeps storage · t) accounts account

variable {count : UInt32}

theorem fund_of_isLocal (h : Endpoint.isLocal ctx.network = true) :
    ctx.fund count amount storage = (do
      let signer ← ctx.requireSigner
      ctx.fundMany signer amount storage count.toNat []) := by
  rw [fund, if_neg (not_not_intro h)]

theorem fund_of_not_isLocal (h : ¬Endpoint.isLocal ctx.network = true) :
    ctx.fund count amount storage = throw (.notLocal ctx.network) := by
  rw [fund, if_pos h]
  rfl

theorem exists_reports_of_fund {files : FileSystem}
    (h : (ctx.fund count amount storage).Yields Scene.rule (.start files) calls (.ok accounts) t) :
    ∃ signer, ctx.signer = some signer ∧
      ctx.Reports signer amount storage count.toNat accounts calls t := by
  by_cases hlocal : Endpoint.isLocal ctx.network = true
  · rw [fund_of_isLocal hlocal, requireSigner] at h
    cases hsigner : ctx.signer with
    | none =>
      rw [hsigner] at h
      obtain ⟨-, he, -⟩ := Action.yields_throw.mp h
      cases he
    | some signer =>
      rw [hsigner] at h
      change (ctx.fundMany signer amount storage count.toNat []).Yields _ _ _ _ _ at h
      obtain ⟨_, parts, rfl, hlength, rfl, hmade⟩ := exists_makes_of_fundMany h
      refine ⟨signer, rfl, hlength, ?_, ⟨parts, rfl, hmade.pays⟩, ?_, hmade.keys, ?_⟩
      · rw [countP_flatten_eq_length hmade.pays, hlength]
      · intro account _
        rw [account.wallet.address_eq]
        exact Address.isValid_ofPublicKey _
      · intro account haccount
        exact (hmade.kept account haccount).mono (fun _ hholds => hholds.keeps)
          (List.Subset.refl _)
  · rw [fund_of_not_isLocal hlocal] at h
    obtain ⟨-, he, -⟩ := Action.yields_throw.mp h
    cases he

/-- Whatever keys are handed out and whatever nodes reply, a funding run that succeeds reports the
accounts that got money from the signer, one after another, each confirmed before the next. Outside
of local networks nothing is asked of a node. -/
theorem fund_reports {files : FileSystem}
    {q : Program effects (Except Failure (List FundedAccount))}
    (h : Reaches Scene.rule (ctx.fund count amount storage).run (.start files) calls q t) :
    (∀ accounts, q = .done (.ok accounts) → ∃ signer, ctx.signer = some signer ∧
      ctx.Reports signer amount storage count.toNat accounts calls t) ∧
    (ctx.network ≠ "localhost" → ctx.network ≠ "gochain" →
      calls = [] ∧ q = .done (.error (.notLocal ctx.network)) ∧ t = .start files) := by
  constructor
  · rintro accounts rfl
    exact exists_reports_of_fund h
  · intro hlocalhost hgochain
    have hlocal : ¬Endpoint.isLocal ctx.network = true := by
      simp [Endpoint.isLocal, hlocalhost, hgochain]
    rw [fund_of_not_isLocal hlocal] at h
    obtain ⟨hq, hcalls, ht⟩ := Reaches.of_done h
    exact ⟨hcalls, hq, ht⟩

/-! ### Two accounts -/

/-- The root directory, where the keystore files have the password `pw`. -/
def vault : KeyStorage :=
  ⟨"/", "pw"⟩

/-- The private key after the least one. -/
def secondKey : Secp256k1.PrivateKey :=
  ⟨2, Nat.two_pos, by decide⟩

theorem path_vault_least : vault.path (Wallet.ofKey .least) =
    "/hx0502987e630ea7ebb2bf1d84a65a727109385bcf.json" := by
  decide +kernel

theorem path_vault_secondKey : vault.path (Wallet.ofKey secondKey) =
    "/hx5b97bc7e0a18d4a7a825e150ae59ef4e5c9fba2e.json" := by
  decide +kernel

/-- The scene after an account was made whose key is in a file of that name. -/
def withAccount (s : Scene) (key : Secp256k1.PrivateKey) (name : String) (content : Bytes) :
    Scene where
  files := s.files.put (Place.root.child name) (.file content)
  printed := s.printed ++
    [(Wallet.ofKey key).address ++ "  keystore=" ++ vault.path (Wallet.ofKey key)]
  keys := s.keys ++ [key]

/-- The node confirms the transfer to a new account, and its keystore file is written. -/
theorem exists_yields_fundOne_vault {key : Secp256k1.PrivateKey} {path : Path} {name : String}
    (hpath : vault.path (Wallet.ofKey key) = path) (hparent : path.parent? = some "/")
    (hmake : s.files.makeDirectories "/" = (.ok (), s.files))
    (hwrite : ∀ content, s.files.write path content =
      .ok (s.files.put (Place.root.child name) (.file content))) :
    ∃ signed content, (lending.fundOne Operation.scribble loan (some vault)).Yields Scene.rule s
      [taken signed, toldSuccess] (.ok ⟨Wallet.ofKey key, "0xab"⟩)
      (withAccount s key name content) := by
  subst hpath
  let files (content : Bytes) : FileSystem := s.files.put (Place.root.child name) (.file content)
  have hdirectory : Scene.rule (.makeDirectories "/") (s.withKey key) (.ok ()) (s.withKey key) :=
    ⟨hmake, rfl, rfl⟩
  obtain ⟨content, hstore⟩ : ∃ content,
      ((Wallet.ofKey key).store (vault.path (Wallet.ofKey key)) vault.password).Yields Scene.rule
        (s.withKey key) [] (.ok ()) ⟨files content, s.printed, s.keys ++ [key]⟩ :=
    Wallet.exists_yields_store (fun _ => ⟨Host.someReply _, rfl, rfl, rfl⟩) hparent hdirectory
      fun content => ⟨hwrite content, rfl, rfl⟩
  have hkeep : (keepKey (some vault) (Wallet.ofKey key)).Yields Scene.rule (s.withKey key) []
      (.ok ()) (withAccount s key name content) :=
    (Action.yields_mapError_ok.mpr hstore).bind_silent
      (Action.yields_host.mpr ⟨(), ⟨rfl, rfl, rfl⟩, rfl, rfl⟩)
  obtain ⟨signed, -, hone⟩ := exists_yields_fundOne_confirmed hkeep
  exact ⟨signed, content, hone⟩

/-- Two keys are handed out, the node confirms both transfers, and both keystore files are
written. -/
theorem fund_reports_two : ∃ first second accounts t,
    (lending.fund 2 loan (some vault)).Yields Scene.rule (.start ⟨[], .root⟩)
        [taken first, toldSuccess, taken second, toldSuccess] (.ok accounts) t ∧
      lending.Reports Operation.scribble loan (some vault) 2 accounts
        [taken first, toldSuccess, taken second, toldSuccess] t ∧
      accounts.map (·.wallet.key.toNat) = [1, 2] := by
  let start : Scene := .start ⟨[], .root⟩
  let one : String := "hx0502987e630ea7ebb2bf1d84a65a727109385bcf.json"
  let two : String := "hx5b97bc7e0a18d4a7a825e150ae59ef4e5c9fba2e.json"
  obtain ⟨first, content, hfirst⟩ : ∃ signed content,
      (lending.fundOne Operation.scribble loan (some vault)).Yields Scene.rule start
        [taken signed, toldSuccess] (.ok ⟨Wallet.ofKey .least, "0xab"⟩)
        (withAccount start .least one content) :=
    exists_yields_fundOne_vault path_vault_least (by decide +kernel) rfl fun _ => rfl
  obtain ⟨second, content', hsecond⟩ : ∃ signed content',
      (lending.fundOne Operation.scribble loan (some vault)).Yields Scene.rule
        (withAccount start .least one content)
        [taken signed, toldSuccess] (.ok ⟨Wallet.ofKey secondKey, "0xab"⟩)
        (withAccount (withAccount start .least one content) secondKey two content') :=
    exists_yields_fundOne_vault path_vault_secondKey (by decide +kernel) rfl fun _ => rfl
  have hfund : (lending.fund 2 loan (some vault)).Yields Scene.rule start
      [taken first, toldSuccess, taken second, toldSuccess]
      (.ok [⟨Wallet.ofKey .least, "0xab"⟩, ⟨Wallet.ofKey secondKey, "0xab"⟩])
      (withAccount (withAccount start .least one content) secondKey two content') := by
    rw [fund_of_isLocal (by decide)]
    exact hfirst.bind (hsecond.bind (.refl _ _))
  obtain ⟨signer, hsigner, hreports⟩ := (fund_reports hfund).1 _ rfl
  obtain rfl : signer = Operation.scribble := (Option.some.inj hsigner).symm
  exact ⟨first, second, _, _, hfund, hreports, rfl⟩

end Context

end ScoreDeploy
