import ScoreDeploy.Machine
import ScoreDeploy.Submission
import ScoreDeploy.Proofs.Action

/-!
# Waiting for the outcome of a transaction

`confirm` asks a node again and again what became of a transaction. Whatever the node says over
time, the first thing it says that is no error object decides, and nothing is asked after it; if all
that may be asked for are error objects, the last of them is reported. `Decides` tells what a single
fetch decides, without any reader.
-/

namespace ScoreDeploy.Submission

open Json

/-! ### What a fetch says -/

/-- A member that may be missing or null, and the text that it gives. -/
inductive IsOptionalText : Option Json → Option String → Prop
  | absent : IsOptionalText none none
  | null : IsOptionalText (some .null) none
  | text (s : String) : IsOptionalText (some (.string s)) (some s)

/-- The value is an object whose members make up the receipt. -/
inductive HoldsReceipt : Json → Receipt → Prop
  | intro {members : Members} {receipt : Receipt} :
      Members.get? members "status" = some (.string receipt.status) →
      IsOptionalText (Members.get? members "scoreAddress") receipt.contract →
      IsOptionalText (Members.get? members "txHash") receipt.hash →
      receipt.others = Members.without ["status", "scoreAddress", "txHash"] members →
      HoldsReceipt (.object members) receipt

/-- The error in an object that was fetched. -/
def pendingCause? : Except Node.Error Json → Option Json
  | .ok (.object members) => Members.get? members "error"
  | _ => none

/-- What a fetch without an error object decides about the transaction with that hash. -/
inductive Decides (hash : String) : Except Node.Error Json → Except Error Receipt → Prop
  /-- Nothing came back. -/
  | transport (cause : Node.Error) : Decides hash (.error cause) (.error (.node cause))
  /-- There is no result. -/
  | noResult {value : Json} : value.member? "result" = none →
      Decides hash (.ok value) (.error (.unknown hash value))
  /-- The result is no receipt. -/
  | noReceipt {value result : Json} : value.member? "result" = some result →
      (∀ receipt, ¬HoldsReceipt result receipt) →
      Decides hash (.ok value) (.error (.unknown hash result))
  /-- The transaction did not succeed. -/
  | failed {value result : Json} {receipt : Receipt} : value.member? "result" = some result →
      HoldsReceipt result receipt → receipt.status ≠ "0x1" →
      Decides hash (.ok value) (.error (.failed hash result))
  /-- The transaction succeeded. -/
  | confirmed {value result : Json} {receipt : Receipt} : value.member? "result" = some result →
      HoldsReceipt result receipt → receipt.status = "0x1" →
      Decides hash (.ok value) (.ok receipt)

theorem optionalText?_eq_some_iff {members : Members} {key : String} {s : Option String} :
    Receipt.optionalText? members key = some s ↔ IsOptionalText (Members.get? members key) s := by
  rw [Receipt.optionalText?]
  generalize Members.get? members key = entry
  constructor
  · intro h
    split at h
    · cases h
      exact .absent
    · cases h
      exact .null
    · cases h
      exact .text _
    · cases h
  · intro h
    cases h <;> rfl

/-- A receipt is read off exactly the values that hold it. -/
theorem ofJson?_eq_some_iff {value : Json} {receipt : Receipt} :
    Receipt.ofJson? value = some receipt ↔ HoldsReceipt value receipt := by
  constructor
  · intro h
    cases value with
    | object members =>
      simp only [Receipt.ofJson?, Option.bind_eq_bind, Option.bind_eq_some_iff] at h
      obtain ⟨entry, hentry, status, hstatus, contract, hcontract, hash, hhash, heq⟩ := h
      obtain rfl := Option.some.inj heq
      rw [string?_eq_some_iff.mp hstatus] at hentry
      exact ⟨hentry, optionalText?_eq_some_iff.mp hcontract, optionalText?_eq_some_iff.mp hhash,
        rfl⟩
    | _ => cases h
  · rintro ⟨hstatus, hcontract, hhash, hothers⟩
    rw [← optionalText?_eq_some_iff] at hcontract hhash
    simp only [Receipt.ofJson?, hstatus, hcontract, hhash, Option.bind_eq_bind, Option.bind_some,
      string?, Receipt.knownKeys, ← hothers]
    rfl

variable {terms : Terms} {hash : String} {verbose : Bool}

theorem endsIn_reportFailure (title : String) (value : Json) (cause : Error) :
    EndsIn (.error cause)
      (reportFailure title value >>= fun _ => throw cause : Action Error Receipt).run :=
  .host fun _ => .done

/-- A result decides, and nothing is asked after it. -/
theorem accept_decides {value result : Json} (h : value.member? "result" = some result) :
    ∃ verdict, Decides hash (.ok value) verdict ∧
      EndsIn verdict (accept hash verbose result).run := by
  rw [accept]
  cases hreceipt : Receipt.ofJson? result with
  | none =>
    refine ⟨_, .noReceipt h fun receipt hholds => ?_, endsIn_reportFailure _ _ _⟩
    rw [← ofJson?_eq_some_iff, hreceipt] at hholds
    cases hholds
  | some receipt =>
    have hholds := ofJson?_eq_some_iff.mp hreceipt
    by_cases hstatus : receipt.status = "0x1"
    · have hsucceeded : receipt.succeeded = true := beq_iff_eq.mpr hstatus
      simp only [hsucceeded, if_true]
      exact ⟨_, .confirmed h hholds hstatus, .host fun _ => .done⟩
    · have hsucceeded : ¬receipt.succeeded = true := mt beq_iff_eq.mp hstatus
      simp only [hsucceeded]
      exact ⟨_, .failed h hholds hstatus, endsIn_reportFailure _ _ _⟩

theorem HoldsReceipt.unique {value : Json} {receipt receipt' : Receipt}
    (h : HoldsReceipt value receipt) (h' : HoldsReceipt value receipt') : receipt = receipt' :=
  Option.some.inj ((ofJson?_eq_some_iff.mpr h).symm.trans (ofJson?_eq_some_iff.mpr h'))

/-- A fetch decides one thing only. -/
theorem Decides.unique {fetched : Except Node.Error Json} {verdict verdict' : Except Error Receipt}
    (h : Decides hash fetched verdict) (h' : Decides hash fetched verdict') :
    verdict = verdict' := by
  cases h with
  | transport cause =>
    cases h'
    rfl
  | noResult hnone =>
    cases h' with
    | noResult => rfl
    | noReceipt hresult | failed hresult | confirmed hresult =>
      rw [hnone] at hresult
      cases hresult
  | noReceipt hresult hno =>
    cases h' with
    | noResult hnone =>
      rw [hresult] at hnone
      cases hnone
    | noReceipt hresult' => rw [Option.some.inj (hresult.symm.trans hresult')]
    | failed hresult' hholds | confirmed hresult' hholds =>
      exact absurd (Option.some.inj (hresult'.symm.trans hresult) ▸ hholds) (hno _)
  | failed hresult hholds hstatus =>
    cases h' with
    | noResult hnone =>
      rw [hresult] at hnone
      cases hnone
    | noReceipt hresult' hno =>
      exact absurd (Option.some.inj (hresult.symm.trans hresult') ▸ hholds) (hno _)
    | failed hresult' => rw [Option.some.inj (hresult.symm.trans hresult')]
    | confirmed hresult' hholds' hstatus' =>
      have heq := Option.some.inj (hresult.symm.trans hresult')
      subst heq
      exact absurd (hholds.unique hholds' ▸ hstatus') hstatus
  | confirmed hresult hholds hstatus =>
    cases h' with
    | noResult hnone =>
      rw [hresult] at hnone
      cases hnone
    | noReceipt hresult' hno =>
      exact absurd (Option.some.inj (hresult.symm.trans hresult') ▸ hholds) (hno _)
    | failed hresult' hholds' hstatus' =>
      have heq := Option.some.inj (hresult.symm.trans hresult')
      subst heq
      exact absurd (hholds.unique hholds' ▸ hstatus) hstatus'
    | confirmed hresult' hholds' =>
      have heq := Option.some.inj (hresult.symm.trans hresult')
      subst heq
      rw [hholds.unique hholds']

/-! ### One fetch -/

theorem pendingCause?_ok (value : Json) : pendingCause? (.ok value) = value.member? "error" := by
  cases value <;> rfl

theorem run_outcome_bind {α : Type} (f : Json → Action Error α) :
    (outcome terms hash >>= f).run =
      Program.ask (Effect.node terms.node (.outcome hash)) fun fetched =>
        match (fetched : Except Node.Error Json) with
        | .error cause => .done (.error (.node cause))
        | .ok reply => (f reply).run := by
  refine congrArg (Program.ask (I := effects) _) (funext fun fetched => ?_)
  cases fetched <;> rfl

/-- How the wait goes on with what was fetched, if `later` more fetches are allowed. -/
structure GoesOn (terms : Terms) (hash : String) (verbose : Bool) (later : Nat)
    (next : Except Node.Error Json → Program effects (Except Error Receipt)) : Prop where
  /-- Anything but an error object decides. -/
  decided : ∀ fetched, pendingCause? fetched = none →
    ∃ verdict, Decides hash fetched verdict ∧ EndsIn verdict (next fetched)
  /-- The error object of the last fetch is reported. -/
  exhausted : later = 0 → ∀ fetched cause, pendingCause? fetched = some cause →
    EndsIn (.error (.unavailable terms.patience.attempts cause)) (next fetched)
  /-- After any other error object the wait starts over, with one fetch less to go. -/
  again : ∀ left, later = left + 1 → ∀ fetched cause, pendingCause? fetched = some cause →
    ∃ event, next fetched = Program.ask (Effect.host (.log event)) fun _ =>
      Program.ask (Effect.host (.wait terms.patience.interval)) fun _ =>
        (confirmFrom terms hash verbose left).run

theorem run_confirmFrom (terms : Terms) (hash : String) (verbose : Bool) (later : Nat) :
    ∃ next, GoesOn terms hash verbose later next ∧ (confirmFrom terms hash verbose later).run =
      Program.ask (Effect.node terms.node (.outcome hash)) next := by
  rw [confirmFrom.eq_def]
  -- The cases of the structure are those of the match on what the reply says.
  refine ⟨_, ⟨?_, ?_, ?_⟩, run_outcome_bind _⟩
  · intro fetched hnone
    cases fetched with
    | error cause => exact ⟨_, .transport cause, .done⟩
    | ok reply =>
      rw [pendingCause?_ok] at hnone
      simp only [Outcome.ofReply, hnone]
      cases hresult : reply.member? "result" with
      | none => exact ⟨_, .noResult hresult, endsIn_reportFailure _ _ _⟩
      | some result => exact accept_decides hresult
  · rintro rfl fetched cause hsome
    cases fetched with
    | error => cases hsome
    | ok reply =>
      rw [pendingCause?_ok] at hsome
      simp only [Outcome.ofReply, hsome]
      exact endsIn_reportFailure _ _ _
  · rintro left rfl fetched cause hsome
    cases fetched with
    | error => cases hsome
    | ok reply =>
      rw [pendingCause?_ok] at hsome
      simp only [Outcome.ofReply, hsome]
      exact ⟨_, rfl⟩

/-! ### All fetches -/

/-- A node tells what became of transactions by one outcome after another, however it is asked. The
state is how often that was; everything else is answered by `others`. -/
def scripted {σ : Type} (outcomes : Nat → Except Node.Error Json) (others : Surroundings σ) :
    Surroundings (Nat × σ)
  | .node _ (.outcome _), (n, s) => (outcomes n, n + 1, s)
  | r, (n, s) => ((others r s).1, n, (others r s).2)

variable {σ : Type} {outcomes : Nat → Except Node.Error Json} {others : Surroundings σ}
variable {later n fetches : Nat} {s : σ}

/-- A wait that starts with the outcome number `n` fetches so often, makes no other request, and
ends with that verdict. -/
structure Ends (terms : Terms) (hash : String) (verbose : Bool)
    (outcomes : Nat → Except Node.Error Json) (others : Surroundings σ) (later n : Nat) (s : σ)
    (fetches : Nat) (verdict : Except Error Receipt) : Prop where
  requests_eq :
    (scripted outcomes others).requests (confirmFrom terms hash verbose later).run (n, s) =
      List.replicate fetches (terms.node, .outcome hash)
  value_eq :
    (scripted outcomes others).value (confirmFrom terms hash verbose later).run (n, s) = verdict

/-- A wait that comes to its end after what was fetched has fetched once. -/
theorem ends_of_endsIn {next : Except Node.Error Json → Program effects (Except Error Receipt)}
    {verdict : Except Error Receipt}
    (hrun : (confirmFrom terms hash verbose later).run =
      Program.ask (Effect.node terms.node (.outcome hash)) next)
    (h : EndsIn verdict (next (outcomes n))) :
    Ends terms hash verbose outcomes others later n s 1 verdict := by
  have hrequests := Surroundings.requests_of_ask_node (scripted outcomes others) hrun (n, s)
  have hvalue := Surroundings.value_of_ask (scripted outcomes others) hrun (n, s)
  exact ⟨hrequests.trans (congrArg (List.cons _) (h.requests_eq_nil _ _)),
    hvalue.trans (h.value_eq _ _)⟩

/-- Anything but an error object ends the wait. -/
theorem ends_of_decided (h : pendingCause? (outcomes n) = none) :
    ∃ verdict, Decides hash (outcomes n) verdict ∧
      Ends terms hash verbose outcomes others later n s 1 verdict := by
  obtain ⟨next, hnext, hrun⟩ := run_confirmFrom terms hash verbose later
  obtain ⟨verdict, hdecides, hends⟩ := hnext.decided _ h
  exact ⟨verdict, hdecides, ends_of_endsIn hrun hends⟩

/-- An error object ends the wait if no more fetches are allowed. -/
theorem ends_of_exhausted {cause : Json} (h : pendingCause? (outcomes n) = some cause) :
    Ends terms hash verbose outcomes others 0 n s 1
      (.error (.unavailable terms.patience.attempts cause)) := by
  obtain ⟨next, hnext, hrun⟩ := run_confirmFrom terms hash verbose 0
  exact ends_of_endsIn hrun (hnext.exhausted rfl _ _ h)

/-- Otherwise an error object is one fetch of a wait that goes on with the next outcome. -/
theorem ends_of_pending (hn : (pendingCause? (outcomes n)).isSome) {P : Except Error Receipt → Prop}
    (h : ∀ s, ∃ verdict, P verdict ∧
      Ends terms hash verbose outcomes others later (n + 1) s fetches verdict) (s : σ) :
    ∃ verdict, P verdict ∧
      Ends terms hash verbose outcomes others (later + 1) n s (fetches + 1) verdict := by
  obtain ⟨cause, hcause⟩ := Option.isSome_iff_exists.mp hn
  obtain ⟨next, hnext, hrun⟩ := run_confirmFrom terms hash verbose (later + 1)
  obtain ⟨event, hagain⟩ := hnext.again later rfl _ _ hcause
  have hrequests := Surroundings.requests_of_ask_node (scripted outcomes others) hrun (n, s)
  have hvalue := Surroundings.value_of_ask (scripted outcomes others) hrun (n, s)
  have hrequests' := Surroundings.requests_of_ask_host (scripted outcomes others) hagain (n + 1, s)
  have hvalue' := Surroundings.value_of_ask (scripted outcomes others) hagain (n + 1, s)
  obtain ⟨verdict, hverdict, hends⟩ := h _
  exact ⟨verdict, hverdict,
    hrequests.trans (congrArg (List.cons _) (hrequests'.trans hends.requests_eq)),
    hvalue.trans (hvalue'.trans hends.value_eq)⟩

/-- The first outcome that is no error object decides, if there are enough fetches to come to it. -/
theorem ends_at_first_decided {i : Nat} (hi : i ≤ later)
    (hpending : ∀ j < i, (pendingCause? (outcomes (n + j))).isSome)
    (hdecided : pendingCause? (outcomes (n + i)) = none) (s : σ) :
    ∃ verdict, Decides hash (outcomes (n + i)) verdict ∧
      Ends terms hash verbose outcomes others later n s (i + 1) verdict := by
  -- The outcomes come one by one, so that the next one is the first of a shorter wait.
  induction i generalizing later n s with
  | zero => exact ends_of_decided hdecided
  | succ i ih =>
    obtain ⟨later, rfl⟩ := Nat.exists_eq_add_of_le' (Nat.one_le_of_lt hi)
    refine ends_of_pending (hpending 0 (Nat.succ_pos i)) (fun s => ?_) s
    have hshift : ∀ j, n + (j + 1) = n + 1 + j := fun j => by omega
    rw [hshift i] at hdecided ⊢
    exact ih (Nat.le_of_succ_le_succ hi)
      (fun j hj => hshift j ▸ hpending (j + 1) (Nat.succ_lt_succ hj)) hdecided s

/-- If all outcomes that may be asked for are error objects, the last one is reported. -/
theorem ends_of_all_pending (hpending : ∀ j ≤ later, (pendingCause? (outcomes (n + j))).isSome)
    (s : σ) :
    ∃ verdict, (∃ cause, pendingCause? (outcomes (n + later)) = some cause ∧
        verdict = .error (.unavailable terms.patience.attempts cause)) ∧
      Ends terms hash verbose outcomes others later n s (later + 1) verdict := by
  induction later generalizing n s with
  | zero =>
    obtain ⟨cause, hcause⟩ := Option.isSome_iff_exists.mp (hpending 0 (Nat.le_refl 0))
    exact ⟨_, ⟨cause, hcause, rfl⟩, ends_of_exhausted hcause⟩
  | succ later ih =>
    refine ends_of_pending (hpending 0 (Nat.zero_le _)) (fun s => ?_) s
    have hshift : ∀ j, n + (j + 1) = n + 1 + j := fun j => by omega
    rw [hshift later]
    exact ih (fun j hj => hshift j ▸ hpending (j + 1) (Nat.succ_le_succ hj)) s

/-- Whatever a node says, and however many attempts are allowed: if one of the outcomes that may be
asked for is no error object, the first such outcome is the last one asked for and it decides;
otherwise all of them are asked for, and the error in the last one is reported. At least one may be
asked for. -/
theorem confirm_decides_or_gives_up (terms : Terms) (hash : String) (verbose : Bool)
    (outcomes : Nat → Except Node.Error Json) (others : Surroundings σ) (s : σ) :
    (∀ i < max terms.patience.attempts.toNat 1,
        (∀ j < i, (pendingCause? (outcomes j)).isSome) → pendingCause? (outcomes i) = none →
          (scripted outcomes others).requests (confirm terms hash verbose).run (0, s) =
              List.replicate (i + 1) (terms.node, .outcome hash) ∧
            Decides hash (outcomes i)
              ((scripted outcomes others).value (confirm terms hash verbose).run (0, s))) ∧
      ((∀ j < max terms.patience.attempts.toNat 1, (pendingCause? (outcomes j)).isSome) →
        (scripted outcomes others).requests (confirm terms hash verbose).run (0, s) =
            List.replicate (max terms.patience.attempts.toNat 1) (terms.node, .outcome hash) ∧
          ∃ cause, pendingCause? (outcomes (max terms.patience.attempts.toNat 1 - 1)) = some cause ∧
            (scripted outcomes others).value (confirm terms hash verbose).run (0, s) =
              .error (.unavailable terms.patience.attempts cause)) := by
  generalize hbudget : terms.patience.attempts.toNat - 1 = later
  have hmax : max terms.patience.attempts.toNat 1 = later + 1 := by omega
  rw [hmax, confirm, hbudget]
  constructor
  · intro i hi hpending hdecided
    have hwait : ∃ verdict, Decides hash (outcomes (0 + i)) verdict ∧
        Ends terms hash verbose outcomes others later 0 s (i + 1) verdict :=
      ends_at_first_decided (Nat.le_of_lt_succ hi)
        (fun j hj => (Nat.zero_add j).symm ▸ hpending j hj) ((Nat.zero_add i).symm ▸ hdecided) s
    obtain ⟨verdict, hdecides, hrequests, hvalue⟩ := hwait
    rw [Nat.zero_add] at hdecides
    exact ⟨hrequests, hvalue.symm ▸ hdecides⟩
  · intro hpending
    have hwait : ∃ verdict, (∃ cause, pendingCause? (outcomes (0 + later)) = some cause ∧
          verdict = .error (.unavailable terms.patience.attempts cause)) ∧
        Ends terms hash verbose outcomes others later 0 s (later + 1) verdict :=
      ends_of_all_pending
        (fun j hj => (Nat.zero_add j).symm ▸ hpending j (Nat.lt_succ_of_le hj)) s
    obtain ⟨_, ⟨cause, hcause, rfl⟩, hrequests, hvalue⟩ := hwait
    rw [Nat.zero_add] at hcause
    exact ⟨hrequests, cause, hcause, hvalue⟩

/-- A machine in memory, and a node that refuses everything. -/
def refusing : Surroundings Machine
  | .node _ (.estimate _), m => (.error (.invalid "refused"), m)
  | .node _ (.send _), m => (.error (.invalid "refused"), m)
  | .node _ (.outcome _), m => (.error (.invalid "refused"), m)
  | .node _ (.query _), m => (.error (.invalid "refused"), m)
  | .host request, m => m.answer request

/-- A machine without files, on which nothing has happened. -/
def newMachine : Machine where
  files := ⟨[], .root⟩
  clock := 0
  keys := fun _ => .least
  noise := fun _ => 0

/-- An error object and then a reply without a result are two fetches; without any attempts allowed,
the error object is the only one. -/
theorem confirm_decides_or_gives_up_at_error :
    (scripted (fun i => .ok (.object (if i = 0 then [("error", .null)] else []))) refusing).requests
        (confirm ⟨"http://node", 1, ⟨20, 2⟩, {}⟩ "0xab" false).run (0, newMachine) =
        List.replicate 2 ("http://node", .outcome "0xab") ∧
      (scripted (fun _ => .ok (.object [("error", .null)])) refusing).requests
        (confirm ⟨"http://node", 1, ⟨0, 2⟩, {}⟩ "0xab" false).run (0, newMachine) =
        List.replicate 1 ("http://node", .outcome "0xab") :=
  ⟨((confirm_decides_or_gives_up ⟨"http://node", 1, ⟨20, 2⟩, {}⟩ "0xab" false
      (fun i => .ok (.object (if i = 0 then [("error", .null)] else []))) refusing newMachine).1
      1 (by decide) (fun j hj => by rw [Nat.lt_one_iff.mp hj]; rfl) rfl).1,
    ((confirm_decides_or_gives_up ⟨"http://node", 1, ⟨0, 2⟩, {}⟩ "0xab" false
      (fun _ => .ok (.object [("error", .null)])) refusing newMachine).2 fun _ _ => rfl).1⟩

end ScoreDeploy.Submission
