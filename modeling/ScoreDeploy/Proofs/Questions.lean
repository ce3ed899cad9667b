import ScoreDeploy.Command.Context
import ScoreDeploy.Keystore.Store
import ScoreDeploy.Proofs.Execution

/-!
# What is asked at all

Most of a command only looks around: it reads files, reports and computes. `AsksOnly` says that a
program asks questions of one kind and no others, whatever the answers are. Such programs are put
together from their parts, and following one of them makes no calls and, if it only looks, changes
no files.
-/

namespace ScoreDeploy

/-! ### Kinds of questions -/

/-- The question is one for the machine. -/
def Effect.IsHost : Effect → Prop
  | .host _ => True
  | .node .. => False

/-- The question for the machine changes no file. -/
def Host.Request.Looks : Host.Request → Prop
  | .makeDirectories _ => False
  | .write .. => False
  | .rename .. => False
  | _ => True

/-- The question is one for the machine and changes no file. -/
def Effect.Looks : Effect → Prop
  | .host r => r.Looks
  | .node .. => False

/-- The question changes no file. -/
def Effect.Keeps : Effect → Prop
  | .host r => r.Looks
  | .node .. => True

theorem Effect.Looks.isHost : {r : Effect} → r.Looks → r.IsHost
  | .host _, _ => trivial

theorem Effect.Looks.keeps : {r : Effect} → r.Looks → r.Keeps
  | .host _, h => h

/-! ### Programs with questions of one kind -/

/-- All questions of the program are of that kind, whatever is answered. -/
inductive Program.AsksOnly {I : Interface} {α : Type} (kind : I.Request → Prop) :
    Program I α → Prop
  | done (a : α) : AsksOnly kind (.done a)
  | ask {r : I.Request} {next : I.Reply r → Program I α} : kind r →
      (∀ reply, AsksOnly kind (next reply)) → AsksOnly kind (.ask r next)

section

variable {σ ε δ α β : Type} {kind kind' : Effect → Prop}

theorem Program.AsksOnly.bind {p : Program effects α} {f : α → Program effects β}
    (hp : p.AsksOnly kind) (hf : ∀ a, (f a).AsksOnly kind) : (p.bind f).AsksOnly kind := by
  induction hp with
  | done a => exact hf a
  | ask hkind _ ih => exact .ask hkind ih

theorem Program.AsksOnly.mono {p : Program effects α} (hp : p.AsksOnly kind)
    (himp : ∀ r, kind r → kind' r) : p.AsksOnly kind' := by
  induction hp with
  | done a => exact .done a
  | ask hkind _ ih => exact .ask (himp _ hkind) ih

/-- All questions of the action are of that kind. -/
def Action.AsksOnly (kind : Effect → Prop) (x : Action ε α) : Prop :=
  Program.AsksOnly (I := effects) kind x.run

namespace Action.AsksOnly

theorem bind {x : Action ε α} {f : α → Action ε β} (hx : x.AsksOnly kind)
    (hf : ∀ a, (f a).AsksOnly kind) : (x >>= f).AsksOnly kind := by
  rw [AsksOnly, run_bind]
  refine Program.AsksOnly.bind hx fun r => ?_
  cases r with
  | ok a => exact hf a
  | error e => exact .done _

theorem pure (a : α) : (Pure.pure a : Action ε α).AsksOnly kind :=
  .done _

theorem throw (e : ε) : (throw e : Action ε α).AsksOnly kind :=
  .done _

theorem orFail (cause : δ → ε) (answer : Except δ α) : (orFail cause answer).AsksOnly kind :=
  .done _

theorem ofExcept (answer : Except ε α) : (ofExcept answer).AsksOnly kind :=
  .done _

theorem host {r : Host.Request} (h : kind (.host r)) :
    (host r : Action ε (Host.Reply r)).AsksOnly kind :=
  .ask h fun _ => .done _

theorem node {base : String} {r : Node.Request} (h : kind (.node base r)) :
    (node base r : Action ε (Node.Reply r)).AsksOnly kind :=
  .ask h fun _ => .done _

theorem mapError {x : Action δ α} (cause : δ → ε) (hx : x.AsksOnly kind) :
    (mapError cause x).AsksOnly kind :=
  Program.AsksOnly.bind hx fun _ => .done _

theorem discard {x : Action ε α} (hx : x.AsksOnly kind) : (discard x).AsksOnly kind :=
  hx.bind fun _ => .pure _

theorem mono {x : Action ε α} (hx : x.AsksOnly kind) (himp : ∀ r, kind r → kind' r) :
    x.AsksOnly kind' :=
  Program.AsksOnly.mono hx himp

/-- What only looks asks no node. -/
theorem isHost {x : Action ε α} (hx : x.AsksOnly Effect.Looks) : x.AsksOnly Effect.IsHost :=
  hx.mono fun _ h => h.isHost

theorem keeps {x : Action ε α} (hx : x.AsksOnly Effect.Looks) : x.AsksOnly Effect.Keeps :=
  hx.mono fun _ h => h.keeps

end Action.AsksOnly

/-! ### Following such programs -/

/-- Whatever only looks leaves the state of the machine alone. -/
def MachineRule.KeepsLooking (rule : MachineRule σ) : Prop :=
  ∀ (r : Host.Request) (s : σ) (reply : Host.Reply r) (t : σ), r.Looks → rule r s reply t → t = s

variable {rule : MachineRule σ} {s t : σ} {calls : List Call}

/-- Who asks only the machine makes no calls. -/
theorem Program.AsksOnly.calls_eq {p q : Program effects α} (hp : p.AsksOnly Effect.IsHost)
    (h : Reaches rule p s calls q t) : calls = [] ∧ q.AsksOnly Effect.IsHost := by
  induction h with
  | refl => exact ⟨rfl, hp⟩
  | host _ _ ih =>
    cases hp with
    | ask _ hnext => exact ih (hnext _)
  | node _ _ =>
    cases hp with
    | ask hkind _ => exact hkind.elim

theorem Program.AsksOnly.state_eq {p q : Program effects α} (hrule : rule.KeepsLooking)
    (hp : p.AsksOnly Effect.Keeps) (h : Reaches rule p s calls q t) : t = s := by
  induction h with
  | refl => rfl
  | host hstep _ ih =>
    cases hp with
    | ask hkind hnext => exact (ih (hnext _)).trans (hrule _ _ _ _ hkind hstep)
  | node _ ih =>
    cases hp with
    | ask _ hnext => exact ih (hnext _)

namespace Action

/-- A step that asks only the machine fails, or is gone on with, and has made no calls. -/
theorem AsksOnly.yields_bind {x : Action ε α} {f : α → Action ε β} {r : Except ε β}
    (hx : x.AsksOnly Effect.IsHost) (h : (x >>= f).Yields rule s calls r t) :
    (∃ e, x.Yields rule s [] (.error e) t ∧ calls = [] ∧ r = .error e) ∨
      ∃ a m, x.Yields rule s [] (.ok a) m ∧ (f a).Yields rule m calls r t := by
  rcases Action.yields_bind.mp h with ⟨e, he, rfl⟩ | ⟨a, calls₁, m, calls₂, ha, hf, rfl⟩
  · obtain ⟨rfl, -⟩ := Program.AsksOnly.calls_eq hx he
    exact .inl ⟨e, he, rfl, rfl⟩
  · obtain ⟨rfl, -⟩ := Program.AsksOnly.calls_eq hx ha
    exact .inr ⟨a, m, ha, hf⟩

/-- What comes after a step that only looks starts in the same state. -/
theorem AsksOnly.exists_yields_of_bind {x : Action ε α} {f : α → Action ε β} {b : β}
    (hx : x.AsksOnly Effect.Looks) (hrule : rule.KeepsLooking)
    (h : (x >>= f).Yields rule s calls (.ok b) t) :
    ∃ a, x.Yields rule s [] (.ok a) s ∧ (f a).Yields rule s calls (.ok b) t := by
  rcases hx.isHost.yields_bind h with ⟨_, -, -, he⟩ | ⟨a, m, ha, hf⟩
  · cases he
  · obtain rfl : m = s := Program.AsksOnly.state_eq hrule hx.keeps ha
    exact ⟨a, ha, hf⟩

end Action

end

/-! ### What programs give -/

section

variable {σ ε α β : Type} {P : α → Prop}

/-- Whatever the action gives in the end, it has that property. -/
def Action.Ensures (x : Action ε α) (P : α → Prop) : Prop :=
  ∀ calls a, x.Yields anything () calls (.ok a) () → P a

namespace Action.Ensures

theorem bind {x : Action ε β} {f : β → Action ε α} (hf : ∀ b, (f b).Ensures P) :
    (x >>= f).Ensures P := fun _ a h => by
  rcases Action.yields_bind.mp h with ⟨_, -, ha⟩ | ⟨b, _, _, _, -, ha, -⟩
  · cases ha
  · exact hf b _ a ha

theorem bind_of {Q : β → Prop} {x : Action ε β} {f : β → Action ε α} (hx : x.Ensures Q)
    (hf : ∀ b, Q b → (f b).Ensures P) : (x >>= f).Ensures P := fun _ a h => by
  rcases Action.yields_bind.mp h with ⟨_, -, ha⟩ | ⟨b, _, _, _, hb, ha, -⟩
  · cases ha
  · exact hf b (hx _ b hb) _ a ha

theorem pure {a : α} (ha : P a) : (Pure.pure a : Action ε α).Ensures P := fun _ b h => by
  obtain ⟨-, hb, -⟩ := Action.yields_pure.mp h
  exact Except.ok.inj hb ▸ ha

theorem of_yields {x : Action ε α} (hx : x.Ensures P) {rule : MachineRule σ} {s t : σ}
    {calls : List Call} {a : α} (h : x.Yields rule s calls (.ok a) t) : P a :=
  hx _ a (Reaches.toAnything h)

end Action.Ensures

/-- Whatever error the action fails with, it has that property. -/
def Action.FailsOnly (P : ε → Prop) (x : Action ε α) : Prop :=
  ∀ calls e, x.Yields anything () calls (.error e) () → P e

namespace Action.FailsOnly

variable {P : ε → Prop} {δ : Type}

theorem bind {x : Action ε β} {f : β → Action ε α} (hx : x.FailsOnly P)
    (hf : ∀ b, (f b).FailsOnly P) : (x >>= f).FailsOnly P := fun _ e h => by
  rcases Action.yields_bind.mp h with ⟨e', hfail, he⟩ | ⟨b, _, _, _, -, hrest, -⟩
  · obtain rfl := Except.error.inj he
    exact hx _ e hfail
  · exact hf b _ e hrest

theorem bind_of {Q : β → Prop} {x : Action ε β} {f : β → Action ε α} (hx : x.FailsOnly P)
    (hens : x.Ensures Q) (hf : ∀ b, Q b → (f b).FailsOnly P) : (x >>= f).FailsOnly P :=
  fun _ e h => by
    rcases Action.yields_bind.mp h with ⟨e', hfail, he⟩ | ⟨b, _, _, _, hb, hrest, -⟩
    · obtain rfl := Except.error.inj he
      exact hx _ e hfail
    · exact hf b (hens _ b hb) _ e hrest

theorem pure (a : α) : (Pure.pure a : Action ε α).FailsOnly P := fun _ e h => by
  obtain ⟨-, he, -⟩ := Action.yields_pure.mp h
  cases he

theorem throw {e : ε} (he : P e) : (MonadExcept.throw e : Action ε α).FailsOnly P :=
  fun _ e' h => by
    obtain ⟨-, heq, -⟩ := Action.yields_throw.mp h
    exact Except.error.inj heq ▸ he

theorem host (r : Host.Request) : (host r : Action ε (Host.Reply r)).FailsOnly P :=
  fun _ e h => by
    obtain ⟨_, -, -, he⟩ := Action.yields_host.mp h
    cases he

theorem mapError {cause : δ → ε} (hcause : ∀ d, P (cause d)) (x : Action δ α) :
    (mapError cause x).FailsOnly P := fun _ e h => by
  obtain ⟨d, -, rfl⟩ := Action.yields_mapError_error.mp h
  exact hcause d

theorem orFail {cause : δ → ε} (hcause : ∀ d, P (cause d)) (answer : Except δ α) :
    (orFail cause answer).FailsOnly P := fun _ e h => by
  obtain ⟨-, he, -⟩ := Action.yields_orFail.mp h
  cases answer with
  | ok a => cases he
  | error d => exact Except.error.inj he ▸ hcause d

theorem ofExcept {answer : Except ε α} (h : ∀ e, answer = .error e → P e) :
    (ofExcept answer).FailsOnly P := fun _ e hyields => by
  obtain ⟨-, he, -⟩ := Action.yields_done.mp hyields
  exact h e he.symm

theorem discard {x : Action ε α} (hx : x.FailsOnly P) : (discard x).FailsOnly P :=
  hx.bind fun _ => .pure _

theorem of_yields {x : Action ε α} (hx : x.FailsOnly P) {rule : MachineRule σ} {s t : σ}
    {calls : List Call} {e : ε} (h : x.Yields rule s calls (.error e) t) : P e :=
  hx _ e (Reaches.toAnything h)

end Action.FailsOnly

end

/-! ### Looking into workspaces -/

namespace Workspace

variable (ws : Workspace) (package network name : String)

theorem asksOnly_readText {kind : Effect → Prop} {path : Path} (hread : kind (.host (.read path))) :
    (readText path).AsksOnly kind := by
  refine .bind (.host hread) fun answer => ?_
  split
  · exact .throw _
  · exact .throw _
  · split
    · exact .pure _
    · exact .throw _

theorem asksOnly_readWith {α : Type} {kind : Effect → Prop} {path : Path}
    (read : String → Except Json.Fault α) (hread : kind (.host (.read path))) :
    (readWith read path).AsksOnly kind :=
  .bind (asksOnly_readText hread) fun _ => .orFail _ _

theorem asksOnly_address {kind : Effect → Prop}
    (hread : kind (.host (.read (ws.recordPath package network)))) :
    (ws.address package network).AsksOnly kind := by
  refine .bind (.mapError _ (asksOnly_readWith _ hread)) fun receipt => ?_
  split
  · exact .pure _
  · exact .throw _

theorem asksOnly_call {kind : Effect → Prop}
    (hread : kind (.host (.read (ws.callPath package network name)))) :
    (ws.call package network name).AsksOnly kind :=
  .bind (asksOnly_readWith _ hread) fun _ => .bind (.orFail _ _) fun _ => .pure _

theorem looks_readWith {α : Type} (read : String → Except Json.Fault α) (path : Path) :
    (readWith read path).AsksOnly Effect.Looks :=
  asksOnly_readWith read trivial

theorem looks_artifact : (ws.artifact package).AsksOnly Effect.Looks := by
  refine .bind (looks_readWith _ _) fun build => .bind (.host trivial) fun answer => ?_
  split
  · exact .pure _
  · exact .throw _
  · exact .throw _

theorem looks_params : (ws.params package network).AsksOnly Effect.Looks :=
  looks_readWith _ _

theorem looks_address : (ws.address package network).AsksOnly Effect.Looks :=
  ws.asksOnly_address package network trivial

theorem looks_call : (ws.call package network name).AsksOnly Effect.Looks :=
  ws.asksOnly_call package network name trivial

end Workspace

/-! ### What is done on the machine alone -/

theorem Workspace.isHost_saveRecord (ws : Workspace) (package network : String)
    (receipt : Receipt) : (ws.saveRecord package network receipt).AsksOnly Effect.IsHost := by
  dsimp only [saveRecord]
  split
  · exact .bind (.host trivial) fun _ => .bind (.orFail _ _) fun _ =>
      .bind (.host trivial) fun _ => .bind (.orFail _ _) fun _ =>
        .bind (.host trivial) fun _ => .bind (.orFail _ _) fun _ => .pure _
  · exact .bind (.host trivial) fun _ => .bind (.orFail _ _) fun _ =>
      .bind (.host trivial) fun _ => .bind (.orFail _ _) fun _ => .pure _

theorem Keystore.isHost_save (path : Path) (keystore : Keystore) :
    (save path keystore).AsksOnly Effect.IsHost := by
  dsimp only [save]
  split
  · exact .bind (.host trivial) fun _ => .bind (.orFail _ _) fun _ =>
      .bind (.host trivial) fun _ => .orFail _ _
  · exact .bind (.host trivial) fun _ => .orFail _ _

theorem Keystore.looks_create (secret : Bytes) (address password : String) :
    (create secret address password).AsksOnly Effect.Looks :=
  .bind (.host trivial) fun _ => .bind (.host trivial) fun _ => .bind (.ofExcept _) fun _ =>
    .bind (.host trivial) fun _ => .pure _

theorem Keystore.looks_fetch (path : Path) : (fetch path).AsksOnly Effect.Looks := by
  refine .bind (.host trivial) fun answer => ?_
  split
  · exact .throw _
  · split
    · exact .throw _
    · exact .orFail _ _

theorem Wallet.looks_load (path : Path) (password : String) :
    (load path password).AsksOnly Effect.Looks :=
  .bind (Keystore.looks_fetch path) fun _ => .ofExcept _

theorem Wallet.isHost_store (wallet : Wallet) (path : Path) (password : String) :
    (wallet.store path password).AsksOnly Effect.IsHost :=
  .bind (Keystore.looks_create _ _ _).isHost fun _ => Keystore.isHost_save _ _

end ScoreDeploy
