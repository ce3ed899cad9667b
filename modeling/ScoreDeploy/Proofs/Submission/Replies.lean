import ScoreDeploy.Proofs.Submission.Calls

/-!
# What a reply is taken for

Replies are read in two places. Whoever waits for a transaction looks for an error first, since an
error says that nothing is known yet; whoever asked for anything else looks for a result first. Both
readers look at the same two members and at nothing else, so they tell the same of every reply but
one that holds both.
-/

namespace ScoreDeploy

open Json

variable {reply : Json}

/-! ### Errors in replies -/

namespace Node

theorem resultOf_eq_remote_iff :
    (∃ code message, resultOf reply = .error (.remote code message)) ↔
      reply.member? "result" = none ∧ ∃ cause, reply.member? "error" = some cause := by
  rw [resultOf]
  cases hresult : reply.member? "result" with
  | some result => simp
  | none =>
    cases herror : reply.member? "error" with
    | none => simp
    | some cause => simp [remoteError]

theorem resultOf_eq_invalid_iff :
    (∃ text, resultOf reply = .error (.invalid text)) ↔
      reply.member? "result" = none ∧ reply.member? "error" = none := by
  rw [resultOf]
  cases hresult : reply.member? "result" with
  | some result => simp
  | none =>
    cases herror : reply.member? "error" with
    | none => simp
    | some cause => simp [remoteError]

end Node

/-! ### Outcomes -/

namespace Submission.Outcome

variable {cause result value : Json}

theorem ofReply_eq_pending_iff :
    ofReply reply = .pending cause ↔ reply.member? "error" = some cause := by
  rw [ofReply]
  cases herror : reply.member? "error" with
  | some _ => simp
  | none => cases reply.member? "result" <;> simp

theorem ofReply_eq_done_iff :
    ofReply reply = .done result ↔
      reply.member? "error" = none ∧ reply.member? "result" = some result := by
  rw [ofReply]
  cases herror : reply.member? "error" with
  | some _ => simp
  | none => cases reply.member? "result" <;> simp

theorem ofReply_eq_unknown_iff :
    ofReply reply = .unknown value ↔
      reply.member? "error" = none ∧ reply.member? "result" = none ∧ value = reply := by
  rw [ofReply]
  cases herror : reply.member? "error" with
  | some _ => simp
  | none =>
    cases reply.member? "result" with
    | some _ => simp
    | none => simp [eq_comm]

/-- The two readers agree on replies that hold no more than one of the two members. Of a reply that
holds both, the one who waits takes the error, and the other one the result. -/
theorem ofReply_agrees_resultOf (reply : Json) :
    ((∃ value, ofReply reply = .unknown value) ↔
      ∃ text, Node.resultOf reply = .error (.invalid text)) ∧
    (reply.member? "error" = none ∨ reply.member? "result" = none →
      (∀ result, ofReply reply = .done result ↔ Node.resultOf reply = .ok result) ∧
      ((∃ cause, ofReply reply = .pending cause) ↔
        ∃ code message, Node.resultOf reply = .error (.remote code message))) ∧
    ∀ cause result, reply.member? "error" = some cause → reply.member? "result" = some result →
      ofReply reply = .pending cause ∧ Node.resultOf reply = .ok result := by
  simp only [ofReply_eq_unknown_iff, ofReply_eq_done_iff, ofReply_eq_pending_iff,
    Node.resultOf_eq_ok_iff, Node.resultOf_eq_remote_iff, Node.resultOf_eq_invalid_iff]
  refine ⟨?_, ?_, fun cause result hcause hresult => ⟨hcause, hresult⟩⟩
  · constructor
    · rintro ⟨_, herror, hresult, -⟩
      exact ⟨hresult, herror⟩
    · rintro ⟨hresult, herror⟩
      exact ⟨reply, herror, hresult, rfl⟩
  · rintro (herror | hresult)
    · simp [herror]
    · simp [hresult]

/-- An error that is null is an error, and beside it a result that is null is a result. -/
theorem ofReply_agrees_resultOf_null :
    ((∃ cause, ofReply (.object [("error", .null)]) = .pending cause) ∧
      ∃ code message, Node.resultOf (.object [("error", .null)]) = .error (.remote code message)) ∧
    ofReply (.object [("error", .null), ("result", .null)]) = .pending .null ∧
      Node.resultOf (.object [("error", .null), ("result", .null)]) = .ok .null := by
  obtain ⟨-, hone, -⟩ := ofReply_agrees_resultOf (.object [("error", .null)])
  obtain ⟨-, -, hboth⟩ := ofReply_agrees_resultOf (.object [("error", .null), ("result", .null)])
  have hpending : ∃ cause, ofReply (.object [("error", .null)]) = .pending cause := ⟨.null, rfl⟩
  exact ⟨⟨hpending, (hone (.inr rfl)).2.mp hpending⟩, hboth .null .null rfl rfl⟩

/-- The two readers do not agree on every reply. -/
theorem exists_ofReply_ne_resultOf : ¬∀ reply : Json,
    (∀ result, ofReply reply = .done result ↔ Node.resultOf reply = .ok result) ∧
    ((∃ cause, ofReply reply = .pending cause) ↔
      ∃ code message, Node.resultOf reply = .error (.remote code message)) ∧
    ((∃ value, ofReply reply = .unknown value) ↔
      ∃ text, Node.resultOf reply = .error (.invalid text)) := by
  intro h
  have hok : Node.resultOf (.object [("error", .null), ("result", .string "0x1")]) =
      .ok (.string "0x1") := rfl
  have hdone := ((h _).1 _).mpr hok
  cases hdone

end Submission.Outcome

end ScoreDeploy
