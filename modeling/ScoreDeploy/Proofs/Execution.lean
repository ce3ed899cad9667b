import ScoreDeploy.Node.Client
import ScoreDeploy.Proofs.Action

/-!
# Executions

A question to a node goes over the network as the call of a method with params, and the whole reply
decides what the program is told. `Reaches` follows a program for a while: what machines may answer
is a rule, nodes may reply anything, and the calls that were made are kept in order. `Yields` is the
case of an action that has ended. Each way of composing actions has its equation for `Yields`, so
that what a command does is taken apart step by step.
-/

namespace ScoreDeploy

/-! ### Calls -/

/-- A call to a node and the whole reply. -/
structure Call where
  /-- The base address of the node. -/
  base : String
  request : Node.Request
  reply : Except Node.Error Json

namespace Call

/-- The method that was called. -/
abbrev method (call : Call) : String :=
  call.request.method

/-- The params of the call. -/
abbrev params (call : Call) : Params :=
  call.request.params

/-- The reply holds that result. -/
def HasResult (call : Call) (result : Json) : Prop :=
  ∃ reply, call.reply = .ok reply ∧ reply.member? "result" = some result

/-- The reply holds that number of steps. -/
def HasSteps (call : Call) (steps : UInt64) : Prop :=
  ∃ text, call.HasResult (.string text) ∧ HexNumeral.readWord? text = some steps

end Call

/-! ### Following a program -/

/-- What machines may do: to a question in a state they may give an answer and come to another
state. -/
abbrev MachineRule (σ : Type) := (r : Host.Request) → σ → Host.Reply r → σ → Prop

/-- Machines may give any answer. -/
def anything : MachineRule Unit := fun _ _ _ _ => True

section

variable {σ ε δ α β : Type}

/-- From a state a program comes, after some calls, to what is left of it in another state. -/
inductive Reaches (rule : MachineRule σ) :
    Program effects α → σ → List Call → Program effects α → σ → Prop
  | refl (p : Program effects α) (s : σ) : Reaches rule p s [] p s
  | host {r : Host.Request} {next : Host.Reply r → Program effects α} {s t u : σ}
      {reply : Host.Reply r} {calls : List Call} {q : Program effects α} :
      rule r s reply t → Reaches rule (next reply) t calls q u →
      Reaches rule (.ask (Effect.host r) next) s calls q u
  | node {base : String} {r : Node.Request} {next : Node.Reply r → Program effects α} {s t : σ}
      {reply : Except Node.Error Json} {calls : List Call} {q : Program effects α} :
      Reaches rule (next (r.answerIn reply)) s calls q t →
      Reaches rule (.ask (Effect.node base r) next) s (⟨base, r, reply⟩ :: calls) q t

namespace Reaches

variable {rule : MachineRule σ} {s t u : σ} {calls later : List Call}
variable {p q r : Program effects α} {f : α → Program effects β}

theorem trans (h : Reaches rule p s calls q t) (h' : Reaches rule q t later r u) :
    Reaches rule p s (calls ++ later) r u := by
  induction h with
  | refl => exact h'
  | host hrule _ ih => exact .host hrule (ih h')
  | node _ ih => exact .node (ih h')

/-- Nothing is left to do at the end. -/
theorem of_done {a : α} (h : Reaches rule (.done a) s calls q t) :
    q = .done a ∧ calls = [] ∧ t = s := by
  cases h
  exact ⟨rfl, rfl, rfl⟩

theorem bind (h : Reaches rule p s calls q t) :
    Reaches rule (p.bind f) s calls (q.bind f) t := by
  induction h with
  | refl => exact .refl _ _
  | host hrule _ ih => exact .host hrule ih
  | node _ ih => exact .node ih

/-- A program that goes on with another one after its end is still on the way to that end, or has
come to it and goes on. -/
theorem of_bind {q : Program effects β} (h : Reaches rule (p.bind f) s calls q t) :
    (∃ p', Reaches rule p s calls p' t ∧ q = p'.bind f) ∨
      ∃ a calls₁ m calls₂, Reaches rule p s calls₁ (.done a) m ∧ Reaches rule (f a) m calls₂ q t ∧
        calls = calls₁ ++ calls₂ := by
  induction p generalizing s calls with
  | done a => exact .inr ⟨a, [], s, calls, .refl _ _, h, rfl⟩
  | ask r next ih =>
    cases h with
    | refl => exact .inl ⟨_, .refl _ _, rfl⟩
    | host hrule h =>
      rcases ih _ h with ⟨p', hp', hq⟩ | ⟨a, calls₁, m, calls₂, hp, hf, hcalls⟩
      · exact .inl ⟨p', .host hrule hp', hq⟩
      · exact .inr ⟨a, calls₁, m, calls₂, .host hrule hp, hf, hcalls⟩
    | node h =>
      rcases ih _ h with ⟨p', hp', hq⟩ | ⟨a, calls₁, m, calls₂, hp, hf, hcalls⟩
      · exact .inl ⟨p', .node hp', hq⟩
      · exact .inr ⟨a, _ :: calls₁, m, calls₂, .node hp, hf, congrArg (List.cons _) hcalls⟩

theorem of_bind_done {b : β} (h : Reaches rule (p.bind f) s calls (.done b) t) :
    ∃ a calls₁ m calls₂, Reaches rule p s calls₁ (.done a) m ∧
      Reaches rule (f a) m calls₂ (.done b) t ∧ calls = calls₁ ++ calls₂ := by
  rcases h.of_bind with ⟨p', hp', hb⟩ | h
  · cases p' with
    | done a => exact ⟨a, calls, t, [], hp', hb ▸ .refl _ _, (List.append_nil _).symm⟩
    | ask r next => cases hb
  · exact h

/-- Whatever a machine does, some machine does it. -/
theorem toAnything (h : Reaches rule p s calls q t) : Reaches anything p () calls q () := by
  induction h with
  | refl => exact .refl _ _
  | host _ _ ih => exact .host trivial ih
  | node _ ih => exact .node ih

/-- A machine that may do anything may answer that. -/
theorem told {r : Host.Request} {next : Host.Reply r → Program effects α} (reply : Host.Reply r)
    (h : Reaches anything (next reply) () calls q ()) :
    Reaches anything (.ask (Effect.host r) next) () calls q () :=
  .host trivial h

end Reaches

/-- A program that always comes to one end makes no calls on the way there. -/
theorem EndsIn.of_reaches {rule : MachineRule σ} {p : Program effects α} {s t : σ}
    {calls : List Call} {v a : α} (hends : EndsIn v p)
    (h : Reaches rule p s calls (.done a) t) : calls = [] ∧ a = v := by
  induction hends generalizing s calls with
  | done =>
    obtain ⟨ha, hcalls, -⟩ := h.of_done
    exact ⟨hcalls, Program.done.inj ha⟩
  | host _ ih =>
    cases h with
    | host _ h => exact ih _ h

/-- Every question can be answered. -/
def Host.someReply : (r : Host.Request) → Host.Reply r
  | .now => (0 : Int64)
  | .wait _ => ()
  | .log _ => ()
  | .print _ => ()
  | .freshKey => Secp256k1.PrivateKey.least
  | .randomBytes count => Vector.replicate count 0
  | .password _ => .ended
  | .isThere _ => false
  | .read _ => .error .notFound
  | .makeDirectories _ => .ok ()
  | .write _ _ => .ok ()
  | .rename _ _ => .ok ()

/-- To every question some answer may be given that changes nothing. -/
def MachineRule.MayIdle (rule : MachineRule σ) : Prop :=
  ∀ (r : Host.Request) (s : σ), ∃ reply, rule r s reply s

theorem mayIdle_anything : anything.MayIdle :=
  fun r _ => ⟨Host.someReply r, trivial⟩

/-- Reports need not change anything. -/
def MachineRule.MayLog (rule : MachineRule σ) : Prop :=
  ∀ (e : Log.Event) (s : σ), rule (.log e) s () s

theorem MachineRule.MayIdle.mayLog {rule : MachineRule σ} (h : rule.MayIdle) : rule.MayLog := by
  intro e s
  obtain ⟨_, hlog⟩ := h (.log e) s
  exact hlog

section

variable {rule : MachineRule σ}

/-- A program can always come to its end. -/
theorem exists_reaches_done (hidle : rule.MayIdle) (p : Program effects α) (s : σ) :
    ∃ calls a, Reaches rule p s calls (.done a) s := by
  induction p with
  | done a => exact ⟨[], a, .refl _ _⟩
  | ask r next ih =>
    cases r with
    | node base r =>
      obtain ⟨calls, a, h⟩ := ih (r.answerIn (.error (.invalid "")))
      exact ⟨_, a, .node h⟩
    | host r =>
      obtain ⟨reply, hreply⟩ := hidle r s
      obtain ⟨calls, a, h⟩ := ih reply
      exact ⟨calls, a, .host hreply h⟩

/-- A program that always comes to one end can come to it without a change. -/
theorem EndsIn.reaches (hidle : rule.MayIdle) {p : Program effects α} {v : α} (h : EndsIn v p)
    (s : σ) : Reaches rule p s [] (.done v) s := by
  induction h with
  | done => exact .refl _ _
  | host _ ih =>
    obtain ⟨reply, hreply⟩ := hidle _ s
    exact .host hreply (ih reply)

end

/-- What holds of the calls of all finished runs holds of those made up to any point, with the
calls that are still to come. -/
theorem Reaches.exists_later {rule : MachineRule σ} (hidle : rule.MayIdle) {P : List Call → Prop}
    {p q : Program effects α} {s t : σ} {calls : List Call}
    (hall : ∀ calls a t, Reaches rule p s calls (.done a) t → P calls)
    (h : Reaches rule p s calls q t) :
    ∃ later, P (calls ++ later) ∧ ∀ a, q = .done a → later = [] := by
  cases q with
  | done a => exact ⟨[], (List.append_nil calls).symm ▸ hall _ _ _ h, fun _ _ => rfl⟩
  | ask r next =>
    obtain ⟨later, a, hlater⟩ := exists_reaches_done hidle (.ask r next) t
    exact ⟨later, hall _ _ _ (h.trans hlater), fun _ hq => nomatch hq⟩

/-! ### Actions that have ended -/

namespace Action

/-- From a state the action comes, after some calls, to its end in another state. -/
def Yields (rule : MachineRule σ) (x : Action ε α) (s : σ) (calls : List Call) (r : Except ε α)
    (t : σ) : Prop :=
  Reaches rule x.run s calls (.done r) t

variable {rule : MachineRule σ} {s t : σ} {calls : List Call}

theorem run_bind (x : Action ε α) (f : α → Action ε β) :
    (x >>= f).run = x.run.bind fun r =>
      match r with
      | .ok a => (f a).run
      | .error e => .done (.error e) :=
  congrArg (Program.bind x.run) (funext fun r => by cases r <;> rfl)

/-- A step fails, and with it the whole; or its result is gone on with. -/
theorem yields_bind {x : Action ε α} {f : α → Action ε β} {r : Except ε β} :
    (x >>= f).Yields rule s calls r t ↔
      (∃ e, x.Yields rule s calls (.error e) t ∧ r = .error e) ∨
        ∃ a calls₁ m calls₂, x.Yields rule s calls₁ (.ok a) m ∧ (f a).Yields rule m calls₂ r t ∧
          calls = calls₁ ++ calls₂ := by
  rw [Yields, run_bind]
  constructor
  · intro h
    obtain ⟨v, calls₁, m, calls₂, hx, hf, rfl⟩ := h.of_bind_done
    cases v with
    | error e =>
      obtain ⟨hr, rfl, rfl⟩ := hf.of_done
      cases hr
      exact .inl ⟨e, (List.append_nil calls₁).symm ▸ hx, rfl⟩
    | ok a => exact .inr ⟨a, calls₁, m, calls₂, hx, hf, rfl⟩
  · rintro (⟨e, hx, rfl⟩ | ⟨a, calls₁, m, calls₂, hx, hf, rfl⟩)
    · exact hx.bind
    · exact Reaches.trans hx.bind hf

theorem Yields.bind {x : Action ε α} {f : α → Action ε β} {a : α} {r : Except ε β} {m : σ}
    {later : List Call} (hx : x.Yields rule s calls (.ok a) m)
    (hf : (f a).Yields rule m later r t) : (x >>= f).Yields rule s (calls ++ later) r t :=
  yields_bind.mpr (.inr ⟨a, calls, m, later, hx, hf, rfl⟩)

/-- A step that makes no calls is gone on with. -/
theorem Yields.bind_silent {x : Action ε α} {f : α → Action ε β} {a : α} {r : Except ε β} {m : σ}
    (hx : x.Yields rule s [] (.ok a) m) (hf : (f a).Yields rule m calls r t) :
    (x >>= f).Yields rule s calls r t :=
  hx.bind hf

/-- A step is still going on, or has failed and with it the whole, or its result is gone on with. -/
theorem reaches_bind {x : Action ε α} {f : α → Action ε β} {q : Program effects (Except ε β)}
    (h : Reaches rule (x >>= f).run s calls q t) :
    (∃ p', Reaches rule x.run s calls p' t ∧ (∀ v, p' ≠ .done v) ∧ ∀ v, q ≠ .done v) ∨
      (∃ e, x.Yields rule s calls (.error e) t ∧ q = .done (.error e)) ∨
        ∃ a calls₁ m calls₂, x.Yields rule s calls₁ (.ok a) m ∧
          Reaches rule (f a).run m calls₂ q t ∧ calls = calls₁ ++ calls₂ := by
  rw [run_bind] at h
  rcases h.of_bind with ⟨p', hp', rfl⟩ | ⟨v, calls₁, m, calls₂, hv, hf, rfl⟩
  · cases p' with
    | ask r next =>
      refine .inl ⟨.ask r next, hp', fun v hq => ?_, fun v hq => ?_⟩
      · cases hq
      · rw [Program.ask_bind] at hq
        cases hq
    | done v =>
      cases v with
      | error e => exact .inr (.inl ⟨e, hp', rfl⟩)
      | ok a => exact .inr (.inr ⟨a, calls, t, [], hp', .refl _ _, (List.append_nil _).symm⟩)
  · cases v with
    | error e =>
      obtain ⟨rfl, rfl, rfl⟩ := hf.of_done
      exact .inr (.inl ⟨e, (List.append_nil calls₁).symm ▸ hv, rfl⟩)
    | ok a => exact .inr (.inr ⟨a, calls₁, m, calls₂, hv, hf, rfl⟩)

/-- Renaming errors changes nothing on the way. -/
theorem reaches_mapError {cause : δ → ε} {x : Action δ α} {q : Program effects (Except ε α)}
    (h : Reaches rule (mapError cause x).run s calls q t) :
    ∃ p', Reaches rule x.run s calls p' t ∧
      q = p'.bind fun v => .done (v.mapError cause) := by
  rcases Reaches.of_bind (f := fun v : Except δ α => .done (v.mapError cause)) h with
    h | ⟨v, calls₁, m, calls₂, hv, hdone, rfl⟩
  · exact h
  · obtain ⟨rfl, rfl, rfl⟩ := hdone.of_done
    exact ⟨.done v, (List.append_nil calls₁).symm ▸ hv, rfl⟩

theorem yields_done {v r : Except ε α} :
    Reaches rule (.done v) s calls (.done r) t ↔ calls = [] ∧ r = v ∧ t = s := by
  constructor
  · intro h
    obtain ⟨hr, hcalls, ht⟩ := h.of_done
    exact ⟨hcalls, (Program.done.inj hr).symm ▸ rfl, ht⟩
  · rintro ⟨rfl, rfl, rfl⟩
    exact .refl _ _

theorem yields_pure {a : α} {r : Except ε α} :
    (pure a : Action ε α).Yields rule s calls r t ↔ calls = [] ∧ r = .ok a ∧ t = s :=
  yields_done

theorem yields_throw {e : ε} {r : Except ε α} :
    (throw e : Action ε α).Yields rule s calls r t ↔ calls = [] ∧ r = .error e ∧ t = s :=
  yields_done

theorem yields_orFail {cause : δ → ε} {answer : Except δ α} {r : Except ε α} :
    (orFail cause answer).Yields rule s calls r t ↔
      calls = [] ∧ r = answer.mapError cause ∧ t = s :=
  yields_done

theorem yields_host {q : Host.Request} {r : Except ε (Host.Reply q)} :
    (host q).Yields rule s calls r t ↔ ∃ reply, rule q s reply t ∧ calls = [] ∧ r = .ok reply := by
  constructor
  · intro h
    cases h with
    | host hrule h =>
      obtain ⟨hr, rfl, rfl⟩ := h.of_done
      exact ⟨_, hrule, rfl, Program.done.inj hr⟩
  · rintro ⟨reply, hrule, rfl, rfl⟩
    exact .host hrule (.refl _ _)

theorem yields_host_bind {q : Host.Request} {f : Host.Reply q → Action ε α} {r : Except ε α} :
    (host q >>= f).Yields rule s calls r t ↔
      ∃ reply m, rule q s reply m ∧ (f reply).Yields rule m calls r t := by
  constructor
  · intro h
    rcases yields_bind.mp h with ⟨_, hhost, -⟩ | ⟨reply, _, m, _, hhost, hf, rfl⟩
    · obtain ⟨_, -, -, hr⟩ := yields_host.mp hhost
      cases hr
    · obtain ⟨_, hrule, rfl, hr⟩ := yields_host.mp hhost
      cases hr
      exact ⟨reply, m, hrule, hf⟩
  · rintro ⟨reply, m, hrule, hf⟩
    exact .host hrule hf

theorem yields_log_bind (hlog : rule.MayLog) {e : Log.Event} {f : Unit → Action ε α}
    {r : Except ε α} (h : (f ()).Yields rule s calls r t) :
    (Action.log e >>= f).Yields rule s calls r t :=
  yields_host_bind.mpr ⟨(), s, hlog e s, h⟩

/-- A program that asks the machine first is at that question, or has got an answer and goes on. -/
theorem reaches_host_bind {q : Host.Request} {f : Host.Reply q → Action ε α}
    {p : Program effects (Except ε α)} (h : Reaches rule (host q >>= f).run s calls p t) :
    (p = .ask (Effect.host q) (fun reply => (f reply).run) ∧ calls = [] ∧ t = s) ∨
      ∃ reply m, rule q s reply m ∧ Reaches rule (f reply).run m calls p t := by
  cases h with
  | refl => exact .inl ⟨rfl, rfl, rfl⟩
  | host hrule h => exact .inr ⟨_, _, hrule, h⟩

theorem yields_node {base : String} {q : Node.Request} {r : Except ε (Node.Reply q)} :
    (node base q).Yields rule s calls r t ↔
      ∃ reply, calls = [⟨base, q, reply⟩] ∧ r = .ok (q.answerIn reply) ∧ t = s := by
  constructor
  · intro h
    cases h with
    | node h =>
      obtain ⟨hr, rfl, rfl⟩ := h.of_done
      exact ⟨_, rfl, Program.done.inj hr, rfl⟩
  · rintro ⟨reply, rfl, rfl, rfl⟩
    exact .node (.refl _ _)

theorem yields_mapError {cause : δ → ε} {x : Action δ α} {r : Except ε α} :
    (mapError cause x).Yields rule s calls r t ↔
      ∃ v, x.Yields rule s calls v t ∧ r = v.mapError cause := by
  constructor
  · intro h
    obtain ⟨v, calls₁, m, calls₂, hx, hv, rfl⟩ := Reaches.of_bind_done (f := fun v => .done _) h
    obtain ⟨hr, rfl, rfl⟩ := hv.of_done
    exact ⟨v, (List.append_nil calls₁).symm ▸ hx, Program.done.inj hr⟩
  · rintro ⟨v, hx, rfl⟩
    exact Reaches.bind (f := fun v => .done _) hx

theorem yields_mapError_ok {cause : δ → ε} {x : Action δ α} {a : α} :
    (mapError cause x).Yields rule s calls (.ok a) t ↔ x.Yields rule s calls (.ok a) t := by
  rw [yields_mapError]
  constructor
  · rintro ⟨v, hv, ha⟩
    cases v with
    | ok b => exact Except.ok.inj ha ▸ hv
    | error d => cases ha
  · intro h
    exact ⟨_, h, rfl⟩

theorem yields_mapError_error {cause : δ → ε} {x : Action δ α} {e : ε} :
    (mapError cause x).Yields rule s calls (.error e) t ↔
      ∃ d, x.Yields rule s calls (.error d) t ∧ e = cause d := by
  rw [yields_mapError]
  constructor
  · rintro ⟨v, hv, he⟩
    cases v with
    | ok b => cases he
    | error d => exact ⟨d, hv, Except.error.inj he⟩
  · rintro ⟨d, hd, rfl⟩
    exact ⟨_, hd, rfl⟩

end Action

end

end ScoreDeploy
