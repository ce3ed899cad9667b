import ScoreDeploy.Proofs.Except
import ScoreDeploy.Proofs.Execution
import ScoreDeploy.Proofs.Submission.Confirm

/-!
# The calls of a submission

A submission is at most one estimate and at most one transaction, and a wait is a number of
questions about one hash. `Submits` and `IsWait` say which calls these are, by what the node replied
to the ones before, and the main statements are that nothing else ever happens.
-/

namespace ScoreDeploy

open Json

/-! ### What replies hold -/

namespace Node

theorem resultOf_eq_ok_iff {reply result : Json} :
    resultOf reply = .ok result ↔ reply.member? "result" = some result := by
  rw [resultOf]
  cases reply.member? "result" with
  | some value => simp
  | none =>
    cases reply.member? "error" <;> simp

theorem stepsOf_eq_ok_iff {result : Json} {steps : UInt64} :
    stepsOf result = .ok steps ↔
      ∃ text, result = .string text ∧ HexNumeral.readWord? text = some steps := by
  cases result with
  | string text =>
    rw [stepsOf, string?]
    cases hword : HexNumeral.readWord? text <;> simp [hword]
  | _ => simp [stepsOf, string?]

theorem hashOf_eq_ok_iff {result : Json} {hash : String} :
    hashOf result = .ok hash ↔ result = .string hash := by
  cases result <;> simp [hashOf, string?]

end Node

namespace Call

variable {base : String} {reply : Except Node.Error Json}

theorem bind_resultOf_eq_ok_iff {r : Node.Request} {result : Json} :
    reply.bind Node.resultOf = .ok result ↔ (Call.mk base r reply).HasResult result := by
  refine Except.bind_eq_ok_iff.trans ?_
  simp only [Node.resultOf_eq_ok_iff, HasResult]

theorem answerIn_estimate_eq_ok_iff {tx : Transaction} {steps : UInt64} :
    (Node.Request.estimate tx).answerIn reply = .ok steps ↔
      (Call.mk base (.estimate tx) reply).HasSteps steps := by
  refine Except.bind_eq_ok_iff.trans ?_
  constructor
  · rintro ⟨result, hresult, hsteps⟩
    obtain ⟨text, rfl, hword⟩ := Node.stepsOf_eq_ok_iff.mp hsteps
    exact ⟨text, bind_resultOf_eq_ok_iff.mp hresult, hword⟩
  · rintro ⟨text, hresult, hword⟩
    exact ⟨_, bind_resultOf_eq_ok_iff.mpr hresult, Node.stepsOf_eq_ok_iff.mpr ⟨text, rfl, hword⟩⟩

theorem answerIn_send_eq_ok_iff {tx : SignedTransaction} {hash : String} :
    (Node.Request.send tx).answerIn reply = .ok hash ↔
      (Call.mk base (.send tx) reply).HasResult (.string hash) := by
  refine Except.bind_eq_ok_iff.trans ?_
  constructor
  · rintro ⟨result, hresult, hhash⟩
    obtain rfl := Node.hashOf_eq_ok_iff.mp hhash
    exact bind_resultOf_eq_ok_iff.mp hresult
  · intro hresult
    exact ⟨_, bind_resultOf_eq_ok_iff.mpr hresult, Node.hashOf_eq_ok_iff.mpr rfl⟩

end Call

namespace Submission

variable {σ : Type} {rule : MachineRule σ} {s t : σ} {calls : List Call}
variable {terms : Terms} {tx : Transaction} {signer : Signer} {limit : UInt64}
variable {given : Option UInt64} {hash : String} {verbose : Bool}

/-! ### Submitting -/

/-- The calls, and the end, where the limit is the one that is given, or else the node estimates
it. -/
inductive Limits (terms : Terms) (tx : Transaction) :
    Option UInt64 → List Call → Except Error UInt64 → Prop
  | given (limit : UInt64) : Limits terms tx (some limit) [] (.ok limit)
  /-- The reply to the estimate tells no number. -/
  | notEstimated {reply : Except Node.Error Json} {cause : Node.Error} :
      (Node.Request.estimate tx).answerIn reply = .error cause →
      Limits terms tx none [⟨terms.node, .estimate tx, reply⟩] (.error (.node cause))
  /-- The number in the reply to the estimate is the limit. -/
  | estimated {reply : Except Node.Error Json} {limit : UInt64} :
      (Call.mk terms.node (.estimate tx) reply).HasSteps limit →
      Limits terms tx none [⟨terms.node, .estimate tx, reply⟩] (.ok limit)

/-- The calls, and the end, where a transaction is signed under a limit and sent. -/
inductive Sends (terms : Terms) (tx : Transaction) (signer : Signer) (limit : UInt64) :
    List Call → Except Error String → Prop
  /-- The signer makes no signature. -/
  | unsigned : tx.sign? limit signer = none → Sends terms tx signer limit [] (.error .unsigned)
  /-- The reply to the transaction tells no hash. -/
  | refused {signed : SignedTransaction} {reply : Except Node.Error Json} {cause : Node.Error} :
      tx.sign? limit signer = some signed →
      (Node.Request.send signed).answerIn reply = .error cause →
      Sends terms tx signer limit [⟨terms.node, .send signed, reply⟩] (.error (.node cause))
  /-- The reply to the transaction holds its hash. -/
  | accepted {signed : SignedTransaction} {reply : Except Node.Error Json} {hash : String} :
      tx.sign? limit signer = some signed →
      (Call.mk terms.node (.send signed) reply).HasResult (.string hash) →
      Sends terms tx signer limit [⟨terms.node, .send signed, reply⟩] (.ok hash)

/-- The calls, and the end, where a transaction is submitted. -/
inductive Submits (terms : Terms) (tx : Transaction) (signer : Signer) (given : Option UInt64) :
    List Call → Except Error String → Prop
  | unlimited {calls : List Call} {e : Error} : Limits terms tx given calls (.error e) →
      Submits terms tx signer given calls (.error e)
  | limited {limit : UInt64} {calls₁ calls₂ : List Call} {r : Except Error String} :
      Limits terms tx given calls₁ (.ok limit) → Sends terms tx signer limit calls₂ r →
      Submits terms tx signer given (calls₁ ++ calls₂) r

/-- An answer of the node is passed on, or its failure ends the action. -/
theorem yields_ask {α : Type} {q : Node.Request} {r : Except Error α}
    (f : Node.Reply q → Except Node.Error α) :
    (Action.node terms.node q >>= fun a => Action.orFail Error.node (f a)).Yields rule s calls r t ↔
      ∃ reply, calls = [⟨terms.node, q, reply⟩] ∧ r = (f (q.answerIn reply)).mapError .node ∧
        t = s := by
  constructor
  · intro h
    rcases Action.yields_bind.mp h with ⟨e, hnode, -⟩ | ⟨a, _, _, _, hnode, hfail, rfl⟩
    · obtain ⟨_, -, hr, -⟩ := Action.yields_node.mp hnode
      cases hr
    · obtain ⟨reply, rfl, ha, rfl⟩ := Action.yields_node.mp hnode
      obtain ⟨rfl, hr, rfl⟩ := Action.yields_orFail.mp hfail
      cases ha
      exact ⟨reply, rfl, hr, rfl⟩
  · rintro ⟨reply, rfl, rfl, rfl⟩
    exact .node (.refl _ _)

theorem yields_estimate {r : Except Error UInt64} :
    (estimate terms tx).Yields rule s calls r t ↔ Limits terms tx none calls r ∧ t = s := by
  refine (yields_ask (q := .estimate tx) (fun a => a)).trans ?_
  constructor
  · rintro ⟨reply, rfl, rfl, rfl⟩
    cases hanswer : (Node.Request.estimate tx).answerIn reply with
    | error cause => exact ⟨.notEstimated hanswer, rfl⟩
    | ok steps => exact ⟨.estimated (Call.answerIn_estimate_eq_ok_iff.mp hanswer), rfl⟩
  · rintro ⟨h, rfl⟩
    cases h with
    | @notEstimated reply _ h => exact ⟨reply, rfl, by rw [h]; rfl, rfl⟩
    | @estimated reply _ h =>
      exact ⟨reply, rfl, by rw [Call.answerIn_estimate_eq_ok_iff.mpr h]; rfl, rfl⟩

theorem yields_send {signed : SignedTransaction} (hsigned : tx.sign? limit signer = some signed)
    {r : Except Error String} :
    (send terms signed).Yields rule s calls r t ↔ Sends terms tx signer limit calls r ∧ t = s := by
  refine (yields_ask (q := .send signed) (fun a => a)).trans ?_
  constructor
  · rintro ⟨reply, rfl, rfl, rfl⟩
    cases hanswer : (Node.Request.send signed).answerIn reply with
    | error cause => exact ⟨.refused hsigned hanswer, rfl⟩
    | ok hash => exact ⟨.accepted hsigned (Call.answerIn_send_eq_ok_iff.mp hanswer), rfl⟩
  · rintro ⟨h, rfl⟩
    cases h with
    | unsigned h =>
      rw [hsigned] at h
      cases h
    | @refused _ reply _ h hanswer =>
      obtain rfl := Option.some.inj (hsigned.symm.trans h)
      exact ⟨reply, rfl, by rw [hanswer]; rfl, rfl⟩
    | @accepted _ reply _ h hhash =>
      obtain rfl := Option.some.inj (hsigned.symm.trans h)
      exact ⟨reply, rfl, by rw [Call.answerIn_send_eq_ok_iff.mpr hhash]; rfl, rfl⟩

/-- A query is one call. -/
theorem yields_query {recipient method : String} {params : Option Params} {r : Except Error Json} :
    (query terms recipient method params).Yields rule s calls r t ↔
      ∃ reply : Except Node.Error Json,
        calls = [⟨terms.node, .query (.ofCall recipient method params), reply⟩] ∧
          r = (reply.bind Node.resultOf).mapError .node ∧ t = s :=
  yields_ask (q := .query (.ofCall recipient method params)) (fun a => a)

theorem limits_of_yields {r : Except Error UInt64}
    (h : (stepLimit terms tx given).Yields rule s calls r t) : Limits terms tx given calls r := by
  cases given with
  | some limit =>
    obtain ⟨rfl, rfl, -⟩ := Action.yields_pure.mp h
    exact .given limit
  | none =>
    rcases Action.yields_bind.mp h with ⟨e, hask, rfl⟩ | ⟨steps, _, _, _, hask, hlog, rfl⟩
    · exact (yields_estimate.mp hask).1
    · obtain ⟨rfl, rfl⟩ := EndsIn.of_reaches (v := Except.ok steps) (.host fun _ => .done) hlog
      rw [List.append_nil]
      exact (yields_estimate.mp hask).1

/-- A transaction is signed after its limit is fixed, and sent once. -/
theorem submits_of_yields {r : Except Error String}
    (h : (submit terms tx signer given).Yields rule s calls r t) :
    Submits terms tx signer given calls r := by
  rw [submit] at h
  rcases Action.yields_bind.mp h with ⟨e, hlimit, rfl⟩ | ⟨limit, _, _, _, hlimit, hrest, rfl⟩
  · exact .unlimited (limits_of_yields hlimit)
  · refine .limited (limits_of_yields hlimit) ?_
    cases hsigned : tx.sign? limit signer with
    | none =>
      rw [hsigned] at hrest
      obtain ⟨rfl, rfl, -⟩ := Action.yields_throw.mp hrest
      exact .unsigned hsigned
    | some signed =>
      rw [hsigned] at hrest
      rcases Action.yields_bind.mp hrest with
        ⟨e, hsend, rfl⟩ | ⟨hash, _, _, calls, hsend, hlogs, rfl⟩
      · exact ((yields_send hsigned).mp hsend).1
      · -- What follows are reports, of another hash too if the node gives one.
        have hends : calls = [] ∧ r = Except.ok hash := by
          dsimp only at hlogs
          split at hlogs
          · exact EndsIn.of_reaches (.host fun _ => .host fun _ => .done) hlogs
          · exact EndsIn.of_reaches (.host fun _ => .done) hlogs
        obtain ⟨rfl, rfl⟩ := hends
        rw [List.append_nil]
        exact ((yields_send hsigned).mp hsend).1

/-! Conversely, nothing of this is excluded. -/

theorem Limits.yields (hlog : rule.MayLog) {r : Except Error UInt64}
    (h : Limits terms tx given calls r) : (stepLimit terms tx given).Yields rule s calls r s := by
  cases given with
  | some limit =>
    cases h
    exact .refl _ _
  | none =>
    refine Action.yields_bind.mpr ?_
    cases r with
    | error e => exact .inl ⟨e, yields_estimate.mpr ⟨h, rfl⟩, rfl⟩
    | ok steps =>
      exact .inr ⟨steps, calls, s, [], yields_estimate.mpr ⟨h, rfl⟩,
        Action.yields_log_bind hlog (.refl _ _), (List.append_nil _).symm⟩

theorem Submits.yields (hlog : rule.MayLog) {r : Except Error String}
    (h : Submits terms tx signer given calls r) :
    (submit terms tx signer given).Yields rule s calls r s := by
  rw [submit]
  refine Action.yields_bind.mpr ?_
  cases h with
  | unlimited hlimits => exact .inl ⟨_, hlimits.yields hlog, rfl⟩
  | @limited limit calls₁ calls₂ _ hlimits hsends =>
    refine .inr ⟨limit, calls₁, s, calls₂, hlimits.yields hlog, ?_, rfl⟩
    cases hsigned : tx.sign? limit signer with
    | none =>
      cases hsends with
      | unsigned => exact .refl _ _
      | refused h _ => exact nomatch hsigned.symm.trans h
      | accepted h _ => exact nomatch hsigned.symm.trans h
    | some signed =>
      have hsend : (send terms signed).Yields rule s calls₂ r s :=
        (yields_send hsigned).mpr ⟨hsends, rfl⟩
      refine Action.yields_bind.mpr ?_
      cases r with
      | error e => exact .inl ⟨e, hsend, rfl⟩
      | ok hash =>
        refine .inr ⟨hash, calls₂, s, [], hsend, ?_, (List.append_nil _).symm⟩
        dsimp only
        split
        · exact Action.yields_log_bind hlog (Action.yields_log_bind hlog (.refl _ _))
        · exact Action.yields_log_bind hlog (.refl _ _)

/-! ### Waiting -/

/-- The call asks a node what became of the transaction with that hash. -/
structure AsksOutcome (terms : Terms) (hash : String) (call : Call) : Prop where
  base_eq : call.base = terms.node
  method_eq : call.method = "icx_getTransactionResult"
  params_eq : call.params = [("txHash", .string hash)]

/-- The calls of a wait for the outcome of the transaction with that hash: one at least, and not
more than are allowed. -/
structure IsWait (terms : Terms) (hash : String) (calls : List Call) : Prop where
  one_le : 1 ≤ calls.length
  le_max : calls.length ≤ max terms.patience.attempts.toNat 1
  asks : ∀ call ∈ calls, AsksOutcome terms hash call

/-- The reply confirms the transaction with that hash: there is no error in it, and it holds the
receipt of a success. -/
structure Confirms (hash : String) (reply : Except Node.Error Json) (receipt : Receipt) : Prop where
  noError : pendingCause? reply = none
  decides : Decides hash reply (.ok receipt)

/-- The calls, and the end, of a wait: if it ends well, the last reply has confirmed it. -/
structure Waits (terms : Terms) (hash : String) (later : Nat) (calls : List Call)
    (r : Except Error Receipt) : Prop where
  le_later : calls.length ≤ later + 1
  asks : ∀ call ∈ calls, AsksOutcome terms hash call
  exists_last : ∃ before last, calls = before ++ [last] ∧
    ∀ receipt, r = .ok receipt → Confirms hash last.reply receipt

theorem waits_one {reply : Except Node.Error Json} {later : Nat} {r : Except Error Receipt}
    (h : ∀ receipt, r = .ok receipt → Confirms hash reply receipt) :
    Waits terms hash later [⟨terms.node, .outcome hash, reply⟩] r where
  le_later := Nat.le_add_left 1 later
  asks := List.forall_mem_singleton.mpr ⟨rfl, rfl, rfl⟩
  exists_last := ⟨[], _, rfl, h⟩

theorem Waits.cons {reply : Except Node.Error Json} {later : Nat} {r : Except Error Receipt}
    (h : Waits terms hash later calls r) :
    Waits terms hash (later + 1) (⟨terms.node, .outcome hash, reply⟩ :: calls) r where
  le_later := Nat.succ_le_succ h.le_later
  asks := List.forall_mem_cons.mpr ⟨⟨rfl, rfl, rfl⟩, h.asks⟩
  exists_last := by
    obtain ⟨before, last, rfl, hlast⟩ := h.exists_last
    exact ⟨_ :: before, last, rfl, hlast⟩

/-- Anything but an error object ends a wait. -/
theorem waits_of_decided {later : Nat} {reply : Except Node.Error Json}
    {next : Except Node.Error Json → Program effects (Except Error Receipt)}
    {r : Except Error Receipt} (hnext : GoesOn terms hash verbose later next)
    (hdecided : pendingCause? reply = none) (h : Reaches rule (next reply) s calls (.done r) t) :
    Waits terms hash later (⟨terms.node, .outcome hash, reply⟩ :: calls) r := by
  obtain ⟨verdict, hdecides, hends⟩ := hnext.decided reply hdecided
  obtain ⟨rfl, rfl⟩ := hends.of_reaches h
  exact waits_one fun receipt hr => ⟨hdecided, hr ▸ hdecides⟩

theorem waits_of_yields_from {later : Nat} {r : Except Error Receipt}
    (h : (confirmFrom terms hash verbose later).Yields rule s calls r t) :
    Waits terms hash later calls r := by
  -- Each fetch either ends the wait or leaves one fetch less to go.
  induction later generalizing s calls with
  | zero =>
    obtain ⟨next, hnext, hrun⟩ := run_confirmFrom terms hash verbose 0
    rw [Action.Yields, hrun] at h
    cases h with
    | @node _ _ _ _ _ reply calls _ h =>
      cases hpending : pendingCause? reply with
      | none => exact waits_of_decided hnext hpending h
      | some cause =>
        obtain ⟨rfl, rfl⟩ := (hnext.exhausted rfl reply cause hpending).of_reaches h
        refine waits_one ?_
        rintro receipt ⟨⟩
  | succ later ih =>
    obtain ⟨next, hnext, hrun⟩ := run_confirmFrom terms hash verbose (later + 1)
    rw [Action.Yields, hrun] at h
    cases h with
    | @node _ _ _ _ _ reply calls _ h =>
      cases hpending : pendingCause? reply with
      | none => exact waits_of_decided hnext hpending h
      | some cause =>
        obtain ⟨event, hagain⟩ := hnext.again later rfl reply cause hpending
        change Reaches rule (next reply) _ _ _ _ at h
        rw [hagain] at h
        cases h with
        | host _ h =>
          cases h with
          | host _ h => exact (ih h).cons

theorem waits_of_yields {r : Except Error Receipt}
    (h : (confirm terms hash verbose).Yields rule s calls r t) :
    IsWait terms hash calls ∧ ∃ before last, calls = before ++ [last] ∧
      ∀ receipt, r = .ok receipt → Confirms hash last.reply receipt := by
  obtain ⟨hle, hasks, before, last, rfl, hlast⟩ := waits_of_yields_from h
  refine ⟨⟨?_, ?_, hasks⟩, before, last, rfl, hlast⟩
  · rw [List.length_append, List.length_singleton]
    exact Nat.le_add_left 1 _
  · omega

/-- A first reply that confirms the transaction ends the wait. -/
theorem Confirms.yields (hidle : rule.MayIdle) {reply : Except Node.Error Json} {receipt : Receipt}
    (h : Confirms hash reply receipt) (s : σ) :
    (confirm terms hash verbose).Yields rule s [⟨terms.node, .outcome hash, reply⟩] (.ok receipt)
      s := by
  obtain ⟨next, hnext, hrun⟩ :=
    run_confirmFrom terms hash verbose (terms.patience.attempts.toNat - 1)
  obtain ⟨verdict, hdecides, hends⟩ := hnext.decided reply h.noError
  obtain rfl := hdecides.unique h.decides
  rw [Action.Yields, confirm, hrun]
  exact .node (hends.reaches hidle s)

end Submission

end ScoreDeploy
