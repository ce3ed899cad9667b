import ScoreDeploy.Proofs.Command.Phases
import ScoreDeploy.Proofs.HexNumeral
import ScoreDeploy.Proofs.Workspace.Reading

/-!
# The calls of commands

Whatever nodes reply and whatever happens on the machine, only some sequences of calls occur. They
are described here by the names of the methods and by what is in the replies: a transaction goes out
once, after a number that was given or estimated, and only the hash that the node gave is asked
about. This holds at every point of every run of a command.

What an estimate has to look like is a parameter of these sequences. Numerals would do, but texts
with a plus sign behind the `0x` are taken for numbers too, and a transaction goes out after them.
-/

namespace ScoreDeploy

open Json

namespace Submission

/-! ### Sequences of calls -/

/-- The call has a node estimate a transaction. -/
structure IsEstimate (terms : Terms) (call : Call) : Prop where
  base_eq : call.base = terms.node
  method_eq : call.method = "debug_estimateStep"

/-- The reply holds a text of that form for a number of 64 bits. -/
def EstimatesBy (form : String → Nat → Prop) (call : Call) : Prop :=
  ∃ text steps, call.HasResult (.string text) ∧ form text steps ∧ steps < 2 ^ 64

/-- The call submits a transaction. -/
structure IsSend (terms : Terms) (call : Call) : Prop where
  base_eq : call.base = terms.node
  method_eq : call.method = "icx_sendTransaction"

/-- The calls of a transaction that is sent and, if the node takes it, waited for. -/
inductive IsSubmission (terms : Terms) : List Call → Prop
  | refused {send : Call} : IsSend terms send → (∀ hash, ¬send.HasResult (.string hash)) →
      IsSubmission terms [send]
  | accepted {send : Call} {hash : String} {gets : List Call} : IsSend terms send →
      send.HasResult (.string hash) → IsWait terms hash gets → IsSubmission terms (send :: gets)

/-- The calls of a transaction that is sent, waited for and confirmed. -/
inductive IsConfirmed (terms : Terms) (receipt : Receipt) : List Call → Prop
  | intro {send last : Call} {hash : String} {gets : List Call} : IsSend terms send →
      send.HasResult (.string hash) → IsWait terms hash (gets ++ [last]) →
      Confirms hash last.reply receipt → IsConfirmed terms receipt (send :: (gets ++ [last]))

/-- The calls that fix the limit of a transaction: none if a limit is given, and otherwise an
estimate by a text of that form. -/
inductive FixesLimit (form : String → Nat → Prop) (terms : Terms) :
    Option UInt64 → List Call → Prop
  | given (limit : UInt64) : FixesLimit form terms (some limit) []
  | estimated {call : Call} : IsEstimate terms call → EstimatesBy form call →
      FixesLimit form terms none [call]

/-- The calls of a transaction whose limit is to be fixed first. -/
inductive IsLimited (form : String → Nat → Prop) (terms : Terms) (given : Option UInt64) :
    List Call → Prop
  | nothing : IsLimited form terms given []
  | notEstimated {call : Call} : given = none → IsEstimate terms call → ¬EstimatesBy form call →
      IsLimited form terms given [call]
  /-- The limit is fixed, and there is no signature. -/
  | unsigned {calls : List Call} : FixesLimit form terms given calls →
      IsLimited form terms given calls
  | submitted {calls₁ calls₂ : List Call} : FixesLimit form terms given calls₁ →
      IsSubmission terms calls₂ → IsLimited form terms given (calls₁ ++ calls₂)

/-- The calls of transactions one after another, at most that many, each of them confirmed before
the next one is sent. -/
inductive IsSeries (terms : Terms) : Nat → List Call → Prop
  | stop (count : Nat) : IsSeries terms count []
  | last {count : Nat} {calls : List Call} : IsSubmission terms calls →
      IsSeries terms (count + 1) calls
  | next {count : Nat} {receipt : Receipt} {calls later : List Call} :
      IsConfirmed terms receipt calls → IsSeries terms count later →
      IsSeries terms (count + 1) (calls ++ later)

variable {form : String → Nat → Prop} {terms : Terms} {given : Option UInt64} {limit : UInt64}
variable {call : Call} {calls : List Call}

/-- Nothing is estimated where a limit is given. -/
theorem IsLimited.of_given (h : IsLimited form terms (some limit) calls) :
    calls = [] ∨ IsSubmission terms calls := by
  cases h with
  | nothing => exact .inl rfl
  | notEstimated hnone _ _ => cases hnone
  | unsigned hfixes =>
    cases hfixes
    exact .inl rfl
  | submitted hfixes hsubmission =>
    cases hfixes
    exact .inr hsubmission

/-- Whatever comes after an estimate comes after one of that form. -/
theorem IsLimited.estimatesBy {next : Call} (h : IsLimited form terms given (call :: next :: calls))
    (hmethod : call.method = "debug_estimateStep") : EstimatesBy form call := by
  generalize hall : call :: next :: calls = all at h
  cases h with
  | nothing | notEstimated => cases hall
  | unsigned hfixes => cases hfixes <;> cases hall
  | submitted hfixes hsubmission =>
    cases hfixes with
    | given =>
      have hsend : call.method = "icx_sendTransaction" := by
        cases hsubmission with
        | refused => cases hall
        | accepted hsend =>
          cases hall
          exact hsend.method_eq
      rw [hmethod] at hsend
      exact absurd hsend (by decide)
    | estimated _ hestimates =>
      cases hall
      exact hestimates

/-! ### Estimates -/

/-- The text is taken for the number: it is a numeral, or would be one without a plus sign. -/
def IsTaken (text : String) (n : Nat) : Prop :=
  HexNumeral.IsNumeral text n ∨ HexNumeral.IsSigned text n

theorem estimatesBy_isTaken_iff : EstimatesBy IsTaken call ↔ ∃ steps, call.HasSteps steps := by
  constructor
  · rintro ⟨text, n, hresult, htaken, hn⟩
    obtain ⟨steps, hword, -⟩ := HexNumeral.exists_readWord?_iff.mpr ⟨htaken, hn⟩
    exact ⟨steps, text, hresult, hword⟩
  · rintro ⟨steps, text, hresult, hword⟩
    obtain ⟨htaken, hn⟩ := HexNumeral.exists_readWord?_iff.mp ⟨steps, hword, rfl⟩
    exact ⟨text, steps.toNat, hresult, htaken, hn⟩

/-- An estimate that is no numeral with a sign is taken only if it is a numeral. -/
theorem estimatesBy_isNumeral_iff (h : ¬EstimatesBy HexNumeral.IsSigned call) :
    EstimatesBy HexNumeral.IsNumeral call ↔ EstimatesBy IsTaken call := by
  constructor
  · rintro ⟨text, n, hresult, hnumeral, hn⟩
    exact ⟨text, n, hresult, .inl hnumeral, hn⟩
  · rintro ⟨text, n, hresult, hnumeral | hsigned, hn⟩
    · exact ⟨text, n, hresult, hnumeral, hn⟩
    · exact absurd ⟨text, n, hresult, hsigned, hn⟩ h

theorem FixesLimit.isNumeral (h : FixesLimit IsTaken terms given calls)
    (hhead : ∀ call ∈ calls.head?, IsEstimate terms call → ¬EstimatesBy HexNumeral.IsSigned call) :
    FixesLimit HexNumeral.IsNumeral terms given calls := by
  cases h with
  | given => exact .given _
  | estimated hestimate htaken =>
    have hsigned := hhead _ rfl hestimate
    exact .estimated hestimate ((estimatesBy_isNumeral_iff hsigned).mpr htaken)

/-- Only the first call can be an estimate. -/
theorem IsLimited.isNumeral (h : IsLimited IsTaken terms given calls)
    (hhead : ∀ call ∈ calls.head?, IsEstimate terms call → ¬EstimatesBy HexNumeral.IsSigned call) :
    IsLimited HexNumeral.IsNumeral terms given calls := by
  cases h with
  | nothing => exact .nothing
  | notEstimated hnone hestimate hno =>
    have hsigned := hhead _ rfl hestimate
    exact .notEstimated hnone hestimate (mt (estimatesBy_isNumeral_iff hsigned).mp hno)
  | unsigned hfixes => exact .unsigned (hfixes.isNumeral hhead)
  | @submitted calls₁ calls₂ hfixes hsubmission =>
    refine .submitted (hfixes.isNumeral fun call hcall => hhead call ?_) hsubmission
    rw [List.head?_append, Option.mem_def.mp hcall]
    rfl

/-! ### Submitting and waiting -/

theorem Limits.fixesLimit {tx : Transaction} (h : Limits terms tx given calls (.ok limit)) :
    FixesLimit IsTaken terms given calls := by
  cases h with
  | given => exact .given limit
  | estimated hsteps => exact .estimated ⟨rfl, rfl⟩ (estimatesBy_isTaken_iff.mpr ⟨_, hsteps⟩)

theorem Limits.isLimited {tx : Transaction} {e : Error}
    (h : Limits terms tx given calls (.error e)) : IsLimited IsTaken terms given calls := by
  cases h with
  | notEstimated hanswer =>
    refine .notEstimated rfl ⟨rfl, rfl⟩ fun htaken => ?_
    obtain ⟨steps, hsteps⟩ := estimatesBy_isTaken_iff.mp htaken
    rw [Call.answerIn_estimate_eq_ok_iff.mpr hsteps] at hanswer
    cases hanswer

/-- The calls of a transaction that was not taken. -/
theorem Submits.isLimited {tx : Transaction} {signer : Signer} {e : Error}
    (h : Submits terms tx signer given calls (.error e)) : IsLimited IsTaken terms given calls := by
  cases h with
  | unlimited hlimits => exact hlimits.isLimited
  | limited hlimits hsends =>
    cases hsends with
    | unsigned _ =>
      rw [List.append_nil]
      exact .unsigned hlimits.fixesLimit
    | refused _ hanswer =>
      refine .submitted hlimits.fixesLimit (.refused ⟨rfl, rfl⟩ fun hash hhash => ?_)
      rw [Call.answerIn_send_eq_ok_iff.mpr hhash] at hanswer
      cases hanswer

/-- The calls of a transaction that was taken end with the one that sent it. -/
theorem Submits.exists_send {tx : Transaction} {signer : Signer} {hash : String}
    (h : Submits terms tx signer given calls (.ok hash)) :
    ∃ calls₁ send, calls = calls₁ ++ [send] ∧ FixesLimit IsTaken terms given calls₁ ∧
      IsSend terms send ∧ send.HasResult (.string hash) := by
  cases h with
  | limited hlimits hsends =>
    cases hsends with
    | accepted _ hhash => exact ⟨_, _, rfl, hlimits.fixesLimit, ⟨rfl, rfl⟩, hhash⟩

end Submission

namespace Context

open Submission

variable {σ α : Type} {rule : MachineRule σ} {s t : σ} {ctx : Context} {prepare : Step Prepared}
variable {given : Option UInt64} {calls : List Call}

/-- An operation is not prepared, or not taken by the node, or taken and waited for. -/
theorem cases_of_confirmed {r : Except Failure (String × Receipt)}
    (hlooks : prepare.AsksOnly Effect.Looks) (h : (ctx.confirmed prepare).Yields rule s calls r t) :
    (∃ e, calls = [] ∧ r = .error e) ∨ ∃ prepared m, prepare.Yields rule s [] (.ok prepared) m ∧
      ((∃ e cause, r = .error e ∧ (prepared.operation.perform ctx.terms prepared.signer).Yields rule
          m calls (.error cause) t) ∨
        ∃ hash m' sent gets, calls = sent ++ gets ∧
          (prepared.operation.perform ctx.terms prepared.signer).Yields rule m sent (.ok hash) m' ∧
          IsWait ctx.terms hash gets ∧ ∀ outcome, r = .ok outcome → outcome.1 = hash ∧
            ∃ before last, gets = before ++ [last] ∧ Confirms hash last.reply outcome.2) := by
  rcases hlooks.isHost.yields_bind h with ⟨e, -, hcalls, hr⟩ | ⟨prepared, m, hprepared, h⟩
  · exact .inl ⟨e, hcalls, hr⟩
  refine .inr ⟨prepared, m, hprepared, ?_⟩
  rcases Action.yields_bind.mp h with ⟨e, hnode, hr⟩ | ⟨hash, sent, m', gets, hnode, hrest, hcalls⟩
  · obtain ⟨cause, hperform, -⟩ := Action.yields_mapError_error.mp hnode
    exact .inl ⟨e, cause, hr, hperform⟩
  refine .inr ⟨hash, m', sent, gets, hcalls, Action.yields_mapError_ok.mp hnode, ?_⟩
  rcases Action.yields_bind.mp hrest with
    ⟨e, hconfirm, rfl⟩ | ⟨receipt, asked, _, _, hconfirm, hpure, rfl⟩
  · obtain ⟨cause, hconfirm, -⟩ := Action.yields_mapError_error.mp hconfirm
    refine ⟨(waits_of_yields hconfirm).1, ?_⟩
    rintro outcome ⟨⟩
  · obtain ⟨rfl, rfl, rfl⟩ := Action.yields_pure.mp hpure
    obtain ⟨hwait, before, last, hasked, hlast⟩ :=
      waits_of_yields (Action.yields_mapError_ok.mp hconfirm)
    rw [List.append_nil]
    refine ⟨hwait, ?_⟩
    rintro outcome ⟨⟩
    exact ⟨rfl, before, last, hasked, hlast receipt rfl⟩

/-- What is done with a receipt on the machine makes no calls. -/
theorem confirmed_of_submitting {finish : String → Receipt → Step α} {r : Except Failure α}
    (hfinish : ∀ hash receipt, (finish hash receipt).AsksOnly Effect.IsHost)
    (h : (ctx.submitting prepare finish).Yields rule s calls r t) :
    ∃ r' m, (ctx.confirmed prepare).Yields rule s calls r' m ∧
      ∀ e, r' = .error e → r = .error e := by
  rcases Action.yields_bind.mp h with ⟨e, he, rfl⟩ | ⟨outcome, _, m, _, hok, hrest, rfl⟩
  · refine ⟨_, t, he, ?_⟩
    rintro e ⟨⟩
    rfl
  · obtain ⟨rfl, -⟩ := Program.AsksOnly.calls_eq (hfinish outcome.1 outcome.2) hrest
    rw [List.append_nil]
    refine ⟨_, m, hok, ?_⟩
    rintro e ⟨⟩

/-- A transaction whose limit is to be fixed from what is given is submitted at most once, and is
confirmed if a receipt comes out. -/
theorem isLimited_of_confirmed {r : Except Failure (String × Receipt)}
    (hlooks : prepare.AsksOnly Effect.Looks)
    (hlimit : prepare.Ensures fun p => p.operation.limit ctx.terms.limits = given)
    (h : (ctx.confirmed prepare).Yields rule s calls r t) :
    IsLimited IsTaken ctx.terms given calls ∧ ∀ outcome, r = .ok outcome → ∃ calls₁ calls₂,
      calls = calls₁ ++ calls₂ ∧ FixesLimit IsTaken ctx.terms given calls₁ ∧
        IsConfirmed ctx.terms outcome.2 calls₂ := by
  rcases cases_of_confirmed hlooks h with ⟨e, rfl, rfl⟩ | ⟨prepared, m, hprepared, hrest⟩
  · exact ⟨.nothing, fun _ hr => nomatch hr⟩
  obtain rfl := hlimit.of_yields hprepared
  rcases hrest with ⟨e, cause, rfl, hperform⟩ | ⟨hash, m', sent, gets, rfl, hperform, hwait, hlast⟩
  · obtain ⟨now, hsubmits⟩ := Operation.exists_submits hperform
    exact ⟨hsubmits.isLimited, fun _ hr => nomatch hr⟩
  · obtain ⟨now, hsubmits⟩ := Operation.exists_submits hperform
    obtain ⟨calls₁, send, rfl, hfixes, hsend, hhash⟩ := hsubmits.exists_send
    rw [List.append_assoc]
    refine ⟨.submitted hfixes (.accepted hsend hhash hwait), ?_⟩
    intro outcome hr
    obtain ⟨-, before, last, rfl, hconfirms⟩ := hlast outcome hr
    exact ⟨calls₁, send :: (before ++ [last]), rfl, hfixes, .intro hsend hhash hwait hconfirms⟩

theorem isLimited_of_submitting {finish : String → Receipt → Step α} {r : Except Failure α}
    (hlooks : prepare.AsksOnly Effect.Looks)
    (hlimit : prepare.Ensures fun p => p.operation.limit ctx.terms.limits = given)
    (hfinish : ∀ hash receipt, (finish hash receipt).AsksOnly Effect.IsHost)
    (h : (ctx.submitting prepare finish).Yields rule s calls r t) :
    IsLimited IsTaken ctx.terms given calls ∧ ∀ a, r = .ok a → ∃ receipt calls₁ calls₂,
      calls = calls₁ ++ calls₂ ∧ FixesLimit IsTaken ctx.terms given calls₁ ∧
        IsConfirmed ctx.terms receipt calls₂ := by
  obtain ⟨r', m, hconfirmed, herror⟩ := confirmed_of_submitting hfinish h
  obtain ⟨hlimited, hends⟩ := isLimited_of_confirmed hlooks hlimit hconfirmed
  refine ⟨hlimited, ?_⟩
  rintro a rfl
  cases r' with
  | error e => cases herror e rfl
  | ok outcome => exact ⟨outcome.2, hends outcome rfl⟩

/-! ### Tasks -/

/-- What a run can be told to do on a network. -/
inductive Task where
  | deploy (package : String) (limit : Option UInt64)
  | update (package : String) (limit : Option UInt64)
  | invoke (package name : String) (limit : Option UInt64)
  | query (package name : String)
  | transfer (recipient : String) (amount : Loop) (limit : Option UInt64)
  | fund (count : UInt32) (amount : Loop) (storage : Option KeyStorage)

namespace Task

/-- What a task gives in the end. -/
abbrev Result : Task → Type
  | deploy .. => String
  | update .. => String
  | invoke .. => Receipt
  | query .. => Json
  | transfer .. => Receipt
  | fund .. => List FundedAccount

/-- Carries out a task. -/
def run (ctx : Context) : (task : Task) → Step task.Result
  | deploy package limit => ctx.deploy package limit
  | update package limit => ctx.update package limit
  | invoke package name limit => ctx.invoke package name limit
  | query package name => ctx.query package name
  | transfer recipient amount limit => ctx.transfer recipient amount limit
  | fund count amount storage => ctx.fund count amount storage

/-- The sequences of calls that a task may make in all, where estimates are to have that form. -/
def Allows (form : String → Nat → Prop) (terms : Terms) : Task → List Call → Prop
  | deploy _ limit, calls => IsLimited form terms limit calls
  | update _ limit, calls => IsLimited form terms limit calls
  | invoke .., calls => calls = [] ∨ IsSubmission terms calls
  | query .., calls => calls = [] ∨
      ∃ call, calls = [call] ∧ call.base = terms.node ∧ call.method = "icx_call"
  | transfer .., calls => calls = [] ∨ IsSubmission terms calls
  | fund count .., calls => IsSeries terms count.toNat calls

variable {form : String → Nat → Prop} {terms : Terms} {task : Task}

/-- A task need not make any calls. -/
theorem allows_nil : task.Allows form terms [] := by
  cases task with
  | deploy | update => exact .nothing
  | invoke | query | transfer => exact .inl rfl
  | fund => exact .stop _

theorem Allows.isNumeral (h : task.Allows IsTaken terms calls)
    (hhead : ∀ call ∈ calls.head?, IsEstimate terms call → ¬EstimatesBy HexNumeral.IsSigned call) :
    task.Allows HexNumeral.IsNumeral terms calls := by
  cases task with
  | deploy | update => exact IsLimited.isNumeral h hhead
  | invoke | query | transfer | fund => exact h

end Task

/-- Without an address in the record nothing is asked, and otherwise at most one query is sent
there, which is the one in the file of the call. -/
theorem calls_of_query {package name : String} {r : Except Failure Json}
    (h : (ctx.query package name).Yields rule s calls r t) :
    (∃ e, calls = [] ∧ r = .error e) ∨ ∃ address m,
      (ctx.workspace.address package ctx.network).Yields rule s [] (.ok address) m ∧
        (calls = [] ∨ ∃ call m' reply,
          (ctx.workspace.call package ctx.network name).Yields rule m [] (.ok call) m' ∧
            calls =
              [⟨ctx.terms.node, .query (.ofCall address call.method call.params), reply⟩]) := by
  rcases (Action.AsksOnly.mapError _ (Workspace.looks_address _ _ _)).isHost.yields_bind h with
    ⟨e, -, rfl, rfl⟩ | ⟨address, m, haddress, hrest⟩
  · exact .inl ⟨e, rfl, rfl⟩
  refine .inr ⟨address, m, Action.yields_mapError_ok.mp haddress, ?_⟩
  rcases (Action.AsksOnly.mapError _ (Workspace.looks_call _ _ _ _)).isHost.yields_bind hrest with
    ⟨_, -, rfl, -⟩ | ⟨call, m', hcall, hask⟩
  · exact .inl rfl
  have hcall := Action.yields_mapError_ok.mp hcall
  rcases Action.yields_bind.mp hask with ⟨e, hquery, -⟩ | ⟨answer, _, _, _, hquery, hprint, rfl⟩
  · obtain ⟨_, hquery, -⟩ := Action.yields_mapError.mp hquery
    obtain ⟨reply, rfl, -⟩ := yields_query.mp hquery
    exact .inr ⟨call, m', reply, hcall, rfl⟩
  · have hfinish : (do Action.print answer.pretty; return answer : Step Json).AsksOnly
        Effect.IsHost := .bind (.host trivial) fun _ => .pure _
    obtain ⟨rfl, -⟩ := Program.AsksOnly.calls_eq hfinish hprint
    obtain ⟨_, hquery, -⟩ := Action.yields_mapError.mp hquery
    obtain ⟨reply, rfl, -⟩ := yields_query.mp hquery
    exact .inr ⟨call, m', reply, hcall, rfl⟩

theorem allows_of_query {package name : String} {r : Except Failure Json}
    (h : (ctx.query package name).Yields rule s calls r t) :
    (Task.query package name).Allows IsTaken ctx.terms calls := by
  rcases calls_of_query h with ⟨_, rfl, -⟩ | ⟨address, _, -, rfl | ⟨_, _, _, -, rfl⟩⟩
  · exact .inl rfl
  · exact .inl rfl
  · exact .inr ⟨_, rfl, rfl, rfl⟩

theorem isSubmission_of_fundOne {signer : Signer} {amount : Loop} {storage : Option KeyStorage}
    {r : Except Failure FundedAccount}
    (h : (ctx.fundOne signer amount storage).Yields rule s calls r t) :
    (calls = [] ∨ IsSubmission ctx.terms calls) ∧
      ∀ a, r = .ok a → ∃ receipt, IsConfirmed ctx.terms receipt calls := by
  rw [fundOne_eq] at h
  obtain ⟨key, _, -, h⟩ := Action.yields_host_bind.mp h
  obtain ⟨hlimited, hends⟩ := isLimited_of_submitting (.pure _) (.pure rfl)
    (fun _ _ => .bind (isHost_keepKey _ _) fun _ => .pure _) h
  refine ⟨hlimited.of_given, fun a ha => ?_⟩
  obtain ⟨receipt, calls₁, calls₂, rfl, hfixes, hconfirmed⟩ := hends a ha
  cases hfixes
  exact ⟨receipt, hconfirmed⟩

/-- Accounts get their money one after another, and the first failure ends the series. -/
theorem isSeries_of_fundMany {signer : Signer} {amount : Loop} {storage : Option KeyStorage}
    {count : Nat} {done : List FundedAccount} {r : Except Failure (List FundedAccount)}
    (h : (ctx.fundMany signer amount storage count done).Yields rule s calls r t) :
    IsSeries ctx.terms count calls := by
  induction count generalizing done s calls with
  | zero =>
    obtain ⟨rfl, -, -⟩ := Action.yields_pure.mp h
    exact .stop 0
  | succ count ih =>
    rcases Action.yields_bind.mp h with ⟨e, hone, rfl⟩ | ⟨account, calls₁, _, _, hone, hmany, rfl⟩
    · rcases (isSubmission_of_fundOne hone).1 with rfl | hsubmission
      · exact .stop _
      · exact .last hsubmission
    · obtain ⟨receipt, hconfirmed⟩ := (isSubmission_of_fundOne hone).2 account rfl
      exact .next hconfirmed (ih hmany)

theorem allows_of_yields {task : Task} {r : Except Failure task.Result}
    (h : (task.run ctx).Yields rule s calls r t) :
    task.Allows IsTaken ctx.terms calls := by
  cases task with
  | deploy package limit =>
    rw [Task.run, deploy_eq] at h
    exact (isLimited_of_submitting (looks_prepareDeploy _ _ _)
      (ensures_limit_prepareDeploy _ _ _ _) (fun _ => isHost_keepRecord _ _) h).1
  | update package limit =>
    rw [Task.run, update_eq] at h
    exact (isLimited_of_submitting (looks_prepareUpdate _ _ _)
      (ensures_limit_prepareUpdate _ _ _ _) (fun _ => isHost_keepRecord _ _) h).1
  | invoke package name limit =>
    rw [Task.run, invoke_eq] at h
    exact (isLimited_of_submitting (looks_prepareInvoke _ _ _ _)
      (ensures_limit_prepareInvoke _ _ _ _ _)
      (fun _ _ => .bind (.host trivial) fun _ => .pure _) h).1.of_given
  | query package name => exact allows_of_query h
  | transfer recipient amount limit =>
    rw [Task.run, transfer_eq] at h
    exact (isLimited_of_submitting (looks_prepareTransfer _ _ _ _)
      (ensures_limit_prepareTransfer _ _ _ _ _)
      (fun _ _ => .bind (.host trivial) fun _ => .bind (.host trivial) fun _ => .pure _)
      h).1.of_given
  | fund count amount storage =>
    rw [Task.run, fund] at h
    split at h
    · rcases (Action.AsksOnly.throw _).yields_bind h with ⟨_, -, rfl, -⟩ | ⟨_, _, hthrow, -⟩
      · exact .stop _
      · obtain ⟨-, hthrow, -⟩ := Action.yields_throw.mp hthrow
        cases hthrow
    · rcases (looks_requireSigner ctx).isHost.yields_bind h with ⟨_, -, rfl, -⟩ | ⟨_, _, -, h⟩
      · exact .stop _
      · exact isSeries_of_fundMany h

/-- Up to any point of any run, the calls are the start of an allowed sequence, and of a whole one
if the run has ended. Estimates are numerals of 64 bits in it, unless the node gives a text with a
plus sign behind the `0x`; then that is taken for an estimate too. -/
theorem Task.allows_calls (ctx : Context) (task : Task) {q : Program effects _}
    (h : Reaches anything (task.run ctx).run () calls q ()) :
    ∃ later, (∀ r, q = .done r → later = []) ∧ task.Allows IsTaken ctx.terms (calls ++ later) ∧
      ((∀ call ∈ calls, IsEstimate ctx.terms call → ¬EstimatesBy HexNumeral.IsSigned call) →
        task.Allows HexNumeral.IsNumeral ctx.terms (calls ++ later)) := by
  cases calls with
  | nil => exact ⟨[], fun _ _ => rfl, Task.allows_nil, fun _ => Task.allows_nil⟩
  | cons first calls =>
    obtain ⟨later, hallowed, hends⟩ :=
      Reaches.exists_later mayIdle_anything (fun _ _ _ hdone => allows_of_yields hdone) h
    refine ⟨later, hends, hallowed, fun hsigned => hallowed.isNumeral ?_⟩
    rintro call ⟨⟩
    exact hsigned first List.mem_cons_self

/-! ### A deployment with an estimate -/

/-- A context whose signer needs no key. -/
def scribbling : Context :=
  ⟨"local", ⟨"http://node", 3, {}, {}⟩, .ofRoot "." "config", false, some Operation.scribble⟩

/-- The node estimates a transaction by a text. -/
def estimatedBy (text : String) (tx : Transaction) : Call :=
  ⟨"http://node", .estimate tx, .ok (.object [("result", .string text)])⟩

/-- The node refuses a transaction. -/
def refusal (signed : SignedTransaction) : Call :=
  ⟨"http://node", .send signed, .error (.invalid "refused")⟩

/-- A file may hold any text. -/
theorem yields_readWith_anything {α : Type} {read : String → Except Json.Fault α} {a : α}
    (path : Path) (text : String) (h : read text = .ok a) :
    (Workspace.readWith read path).Yields anything () [] (.ok a) () := by
  have htext : (Workspace.readText path).Yields anything () [] (.ok text) () := by
    refine Action.yields_host_bind.mpr ⟨.ok (Bytes.ofText text), (), trivial, ?_⟩
    simp only [Bytes.toText?_ofText]
    exact .refl _ _
  refine htext.bind_silent ?_
  rw [h]
  exact .refl _ _

theorem yields_prepareDeploy_anything :
    (scribbling.prepareDeploy "j" none).Yields anything () []
      (.ok ⟨Operation.scribble, .install contentType [0xca, 0xfe] (some []) none⟩) () := by
  have hsigner : scribbling.requireSigner.Yields anything () [] (.ok Operation.scribble) () :=
    .refl _ _
  have hbuild : (scribbling.workspace.build "j").Yields anything () [] (.ok ⟨"j", none, "b"⟩) () :=
    yields_readWith_anything _ "\x7b\"javaPkg\":\"j\",\"build\":\"b\"\x7d" rfl
  have hartifact : (scribbling.workspace.artifact "j").Yields anything () []
      (.ok (scribbling.workspace.artifactPath ⟨"j", none, "b"⟩, [0xca, 0xfe])) () :=
    hbuild.bind_silent (.told (.ok [0xca, 0xfe]) (.refl _ _))
  have hparams : (scribbling.workspace.params "j" "local").Yields anything () [] (.ok []) () :=
    yields_readWith_anything _ "\x7b\x7d" rfl
  exact hsigner.bind_silent ((Action.yields_mapError_ok.mpr hartifact).bind_silent
    ((Action.yields_mapError_ok.mpr hparams).bind_silent (.told () (.refl _ _))))

/-- If the text is read as a number, a transaction goes out after the estimate. -/
theorem exists_yields_deploy_estimated (text : String) {steps : UInt64}
    (h : HexNumeral.readWord? text = some steps) : ∃ tx signed r,
      ((Task.deploy "j" none).run scribbling).Yields anything ()
        [estimatedBy text tx, refusal signed] (.error r) () := by
  let op : Operation := .install contentType [0xca, 0xfe] (some []) none
  let tx : Transaction := op.transaction Operation.scribble.address 3 7
  obtain ⟨signed, hsigned⟩ : ∃ signed, tx.sign? steps Operation.scribble = some signed := ⟨_, rfl⟩
  have hsubmits : Submits scribbling.terms tx Operation.scribble none
      ([estimatedBy text tx] ++ [refusal signed]) (.error (.node (.invalid "refused"))) :=
    .limited (.estimated ⟨text, ⟨_, rfl, rfl⟩, h⟩) (.refused hsigned rfl)
  have hperform : (op.perform scribbling.terms Operation.scribble).Yields anything ()
      [estimatedBy text tx, refusal signed] (.error (.node (.invalid "refused"))) () :=
    Action.yields_host_bind.mpr ⟨(7 : Int64), (), trivial, hsubmits.yields mayIdle_anything.mayLog⟩
  have hconfirmed : (scribbling.confirmed (scribbling.prepareDeploy "j" none)).Yields anything ()
      [estimatedBy text tx, refusal signed]
      (.error (.submission (.node (.invalid "refused")))) () :=
    yields_prepareDeploy_anything.bind_silent
      (Action.yields_bind.mpr (.inl ⟨_, Action.yields_mapError_error.mpr ⟨_, hperform, rfl⟩, rfl⟩))
  refine ⟨tx, signed, .submission (.node (.invalid "refused")), ?_⟩
  rw [Task.run, deploy_eq]
  exact Action.yields_bind.mpr (.inl ⟨_, hconfirmed, rfl⟩)

theorem eq_of_hasResult_estimatedBy {text other : String} {tx : Transaction}
    (h : (estimatedBy text tx).HasResult (.string other)) : other = text := by
  obtain ⟨_, ⟨⟩, hresult⟩ := h
  exact (Json.string.inj (Option.some.inj hresult)).symm

/-- The node estimates sixteen steps and then refuses the transaction: this is one of the allowed
sequences. -/
theorem allows_calls_of_numeral : ∃ tx signed r,
    ((Task.deploy "j" none).run scribbling).Yields anything ()
        [estimatedBy "0x10" tx, refusal signed] (.error r) () ∧
      (Task.deploy "j" none).Allows HexNumeral.IsNumeral scribbling.terms
        [estimatedBy "0x10" tx, refusal signed] := by
  obtain ⟨tx, signed, r, hdeploy⟩ := exists_yields_deploy_estimated "0x10" rfl
  obtain ⟨later, hends, -, hallowed⟩ := Task.allows_calls scribbling _ hdeploy
  obtain rfl := hends _ rfl
  refine ⟨tx, signed, r, hdeploy, hallowed fun call hcall hestimate => ?_⟩
  rintro ⟨text, n, hresult, ⟨digits, htext, -⟩, -⟩
  rcases List.mem_pair.mp hcall with rfl | rfl
  · obtain rfl := eq_of_hasResult_estimatedBy hresult
    simp at htext
  · have hmethod : "icx_sendTransaction" = "debug_estimateStep" := hestimate.method_eq
    exact absurd hmethod (by decide)

/-- After an estimate with a plus sign, which is no numeral, a transaction goes out all the same. -/
theorem not_allows_calls_of_signed : ∃ tx signed r,
    ((Task.deploy "j" none).run scribbling).Yields anything ()
        [estimatedBy "0x+10" tx, refusal signed] (.error r) () ∧
      ¬∃ later, (Task.deploy "j" none).Allows HexNumeral.IsNumeral scribbling.terms
        ([estimatedBy "0x+10" tx, refusal signed] ++ later) := by
  obtain ⟨tx, signed, r, hdeploy⟩ := exists_yields_deploy_estimated "0x+10" rfl
  refine ⟨tx, signed, r, hdeploy, ?_⟩
  rintro ⟨later, hallowed⟩
  obtain ⟨text, n, hresult, ⟨digits, htext, -, hdenotes⟩, -⟩ :=
    IsLimited.estimatesBy hallowed rfl
  obtain rfl := eq_of_hasResult_estimatedBy hresult
  obtain rfl : digits = ['+', '1', '0'] := by simpa using htext.symm
  exact hdenotes.not_plus (Nat.le_refl 16)

end Context

end ScoreDeploy
