import ScoreDeploy.Proofs.Command.Conditions
import ScoreDeploy.Proofs.Command.Parameters
import ScoreDeploy.Proofs.HexNumeral

/-!
# The money that calls bring

The text for the money in the file of a call is read twice: once when the file is checked, and again
when the call is made, where a text that is no quantity would pass for no money. `Costs` says what
the file asks for. An invocation brings just that, and a file that asks for nothing that can be
brought is refused.
-/

namespace ScoreDeploy

open Json

/-- The call brings that much money: its numeral is read as the amount, and it has none just if
there is no money. -/
structure Call.Pays (amount : Loop) (call : Call) : Prop where
  none_iff : Members.get? call.params "value" = none ↔ amount.toNat = 0
  reads : ∀ value, Members.get? call.params "value" = some value →
    ∃ text, value = .string text ∧ HexNumeral.read text = .ok amount

theorem Call.pays_of_get?_eq {amount : Loop} {call : Call}
    (h : Members.get? call.params "value" =
      if amount.toNat = 0 then none else some (.string (HexNumeral.write amount.toNat))) :
    call.Pays amount := by
  by_cases hzero : amount.toNat = 0
  · rw [if_pos hzero] at h
    exact ⟨iff_of_true h hzero, fun _ hvalue => nomatch h.symm.trans hvalue⟩
  · rw [if_neg hzero] at h
    refine ⟨iff_of_false (h ▸ Option.some_ne_none _) hzero, fun value hvalue => ?_⟩
    obtain rfl := Option.some.inj (h.symm.trans hvalue)
    exact ⟨_, rfl, HexNumeral.read_write amount⟩

namespace Context

open Submission

/-- There is a file of the call, and it asks for that much money. -/
def Costs (ctx : Context) (fs : FileSystem) (package name : String) (amount : Loop) : Prop :=
  ∃ file,
    Workspace.Tells fs (Json.readAs Workspace.Call.shape)
        (ctx.workspace.callPath package ctx.network name) file ∧
      Workspace.Call.AsksFor file amount

variable {ctx : Context} {package name : String} {limit : Option UInt64} {amount : Loop}
variable {fs fs' : FileSystem} {calls : List Call} {doc : Document}

/-! ### Reading the file -/

theorem Costs.unique {other : Loop} (h : ctx.Costs fs package name amount)
    (h' : ctx.Costs fs package name other) : amount = other := by
  obtain ⟨file, htells, hasks⟩ := h
  obtain ⟨_, htells', hasks'⟩ := h'
  obtain rfl := htells.unique htells'
  obtain ⟨_, _, -, -, hfile⟩ := htells
  rw [Workspace.Call.asksFor_iff hfile] at hasks hasks'
  exact Except.ok.inj (hasks.symm.trans hasks')

theorem costs_of_tells {method : String} {params : Option Params} {money : Option String}
    (h : Workspace.Tells fs Workspace.Call.readParts
      (ctx.workspace.callPath package ctx.network name) (method, params, money))
    (hmoney : Workspace.Call.readValue money = .ok amount) : ctx.Costs fs package name amount := by
  obtain ⟨bytes, text, hbytes, htext, hparts⟩ := h
  obtain ⟨file, hfile, -, rfl⟩ := Workspace.Call.exists_file_of_readParts hparts
  exact ⟨file, ⟨bytes, text, hbytes, htext, hfile⟩,
    (Workspace.Call.asksFor_iff hfile).mpr hmoney⟩

theorem exists_costs_of_hasCall (h : ctx.HasCall fs package name) :
    ∃ amount, ctx.Costs fs package name amount := by
  obtain ⟨method, params, money, htells, hmoney⟩ := h
  cases money with
  | none => exact ⟨.zero, costs_of_tells htells rfl⟩
  | some text =>
    obtain ⟨amount, hread⟩ := hmoney text rfl
    exact ⟨amount, costs_of_tells htells hread⟩

/-- The money of a call that is taken from its file is what the file asks for. -/
theorem costs_of_yields {call : Workspace.Call}
    (h : (ctx.workspace.call package ctx.network name).Yields FileSystem.rule fs calls (.ok call)
      fs') : ctx.Costs fs package name call.value := by
  obtain ⟨htells, hvalue, -⟩ := Workspace.yields_call_ok.mp h
  exact costs_of_tells htells hvalue

theorem Costs.callMoney (h : ctx.Costs fs package name amount)
    (hfile : Workspace.Says fs (ctx.workspace.callPath package ctx.network name) doc) :
    doc.callMoney = .null ∧ amount = .zero ∨
      ∃ text, doc.callMoney = .text text ∧ HexNumeral.read text = .ok amount := by
  obtain ⟨file, htells, hasks⟩ := h
  obtain ⟨text, htext, hread⟩ := hfile.exists_text htells
  exact hasks.callMoney htext hread

/-! ### Invocations -/

theorem costs_of_prepareInvoke {prepared : Prepared}
    (h : (ctx.prepareInvoke package name limit).Yields FileSystem.rule fs calls (.ok prepared)
      fs') : ctx.Costs fs package name prepared.operation.value := by
  obtain ⟨address, call, hcall, hoperation⟩ := exists_call_of_prepareInvoke h
  rw [hoperation]
  exact costs_of_yields hcall

/-- A transaction that is sent brings the money that the file asks for. -/
theorem pays_of_invoke {r : Except Failure Receipt}
    (h : (ctx.invoke package name limit).Yields FileSystem.rule fs calls r fs') :
    ∀ call ∈ calls, call.method = "icx_sendTransaction" →
      ∃ amount, ctx.Costs fs package name amount ∧ call.Pays amount := by
  rw [invoke_eq] at h
  rcases performs_of_submitting (looks_prepareInvoke _ _ _ _)
      (fun _ _ => .bind (.host trivial) fun _ => .pure _) h with
    ⟨_, rfl, -⟩ | ⟨prepared, m, hprepared, sent, outcome, m', hperform, hsent⟩
  · exact List.forall_mem_nil _
  · intro call hcall hmethod
    have hmem := hsent call hcall (by rw [hmethod]; decide)
    exact ⟨_, costs_of_prepareInvoke hprepared,
      Call.pays_of_get?_eq (Operation.value_eq_of_mem hperform call hmem)⟩

/-! ### A call with money -/

section

set_option maxRecDepth 20000

/-- The file of a call that gives this text for the money. -/
def payText (money : String) : String :=
  "\x7b\"method\":\"pay\",\"value\":\"" ++ (money ++ "\"\x7d")

/-- The files after a deployment, and the file of a call of the contract. -/
def payBench (money : String) : FileSystem where
  entries :=
    [(placeOf ["config", "calls"], .directory), (placeOf ["config", "calls", "j"], .directory),
      (placeOf ["config", "calls", "j", "local"], .directory),
      (placeOf ["config", "calls", "j", "local", "go.json"],
        .file (Bytes.ofText (payText money)))] ++ recorded.entries
  current := .root

/-- Characters that are no quotes, backslashes and control characters stand for themselves. -/
theorem isEscaped_self {cs : List Char}
    (h : (cs.all fun c => c != '"' && c != '\\' && !decide (c.toNat < 0x20)) = true) :
    IsEscaped cs cs := by
  induction cs with
  | nil => exact .nil
  | cons c cs ih =>
    simp only [List.all_cons, Bool.and_eq_true, bne_iff_ne, Bool.not_eq_true',
      decide_eq_false_iff_not] at h
    obtain ⟨⟨⟨hquote, hslash⟩, hcontrol⟩, hcs⟩ := h
    exact .plain hquote hslash hcontrol (ih hcs)

theorem isTextOf_payText {money : String} (h : IsEscaped money.toList money.toList) :
    IsTextOf (payText money).toList
      (.object [("method", .text "pay"), ("value", .text money)]) := by
  have hmethod : IsKeyText ('"' :: (['m', 'e', 't', 'h', 'o', 'd'] ++ ['"'])) "method" :=
    ⟨[], ['m', 'e', 't', 'h', 'o', 'd'], [], areBlank_nil, areBlank_nil, isEscaped_self (by decide),
      rfl⟩
  have hvalue : IsKeyText ('"' :: (['v', 'a', 'l', 'u', 'e'] ++ ['"'])) "value" :=
    ⟨[], ['v', 'a', 'l', 'u', 'e'], [], areBlank_nil, areBlank_nil, isEscaped_self (by decide), rfl⟩
  have hpay : IsEscaped ['p', 'a', 'y'] "pay".toList := isEscaped_self (by decide)
  have hmoney : IsTextOf ('"' :: (money.toList ++ ['"'])) (.text money) := .text h
  have htext : (payText money).toList = '\x7b' :: (separated
      ([⟨'"' :: (['m', 'e', 't', 'h', 'o', 'd'] ++ ['"']), "method",
          '"' :: (['p', 'a', 'y'] ++ ['"']), .text "pay"⟩,
        ⟨'"' :: (['v', 'a', 'l', 'u', 'e'] ++ ['"']), "value",
          '"' :: (money.toList ++ ['"']), .text money⟩].map MemberText.chars) ++ ['\x7d']) := by
    unfold payText
    simp [separated, MemberText.chars]
  rw [htext]
  refine .object (List.cons_ne_nil _ _) ?_ ?_
  · exact List.forall_mem_cons.mpr ⟨hmethod, List.forall_mem_singleton.mpr hvalue⟩
  · exact List.forall_mem_cons.mpr ⟨.text hpay, List.forall_mem_singleton.mpr hmoney⟩

theorem says_payBench {money : String} (h : IsEscaped money.toList money.toList) :
    Workspace.Says (payBench money) (scribbling.workspace.callPath "j" "local" "go")
      (.object [("method", .text "pay"), ("value", .text money)]) :=
  ⟨_, _, rfl, Bytes.toText?_ofText _, isTextOf_payText h⟩

/-- A number in decimal digits is no quantity in a call file. -/
theorem not_costs_twelve (amount : Loop) : ¬scribbling.Costs (payBench "12") "j" "go" amount := by
  intro hcosts
  have htwelve : IsEscaped "12".toList "12".toList := isEscaped_self (by decide +kernel)
  rcases hcosts.callMoney (says_payBench htwelve) with ⟨hnull, -⟩ | ⟨_, htext, hread⟩
  · cases hnull
  · obtain rfl := Document.text.inj htext
    cases hread

theorem tells_payBench {money : String}
    (hread : Workspace.Call.readParts (payText money) = .ok ("pay", none, some money)) :
    Workspace.Tells (payBench money) Workspace.Call.readParts
      (scribbling.workspace.callPath "j" "local" "go") ("pay", none, some money) :=
  ⟨_, _, rfl, Bytes.toText?_ofText _, hread⟩

/-- The node is asked to execute the call and refuses it. -/
theorem exists_yields_invoke_payBench {money : String} {amount : Loop}
    (hread : Workspace.Call.readParts (payText money) = .ok ("pay", none, some money))
    (hmoney : HexNumeral.read money = .ok amount) : ∃ signed r,
      (scribbling.invoke "j" "go" (some 5)).Yields FileSystem.rule (payBench money)
        [refusal signed] r (payBench money) ∧
      (scribbling.workspace.call "j" "local" "go").Yields FileSystem.rule (payBench money) []
        (.ok ⟨"pay", none, some money⟩) (payBench money) := by
  have hvalue : Workspace.Call.value ⟨"pay", none, some money⟩ = amount :=
    Workspace.Call.value_eq_of_readValue hmoney
  have hcall : (scribbling.workspace.call "j" "local" "go").Yields FileSystem.rule (payBench money)
      [] (.ok ⟨"pay", none, some money⟩) (payBench money) :=
    Workspace.yields_call_ok.mpr ⟨tells_payBench hread, hvalue ▸ hmoney, rfl, rfl⟩
  have hsigner : scribbling.requireSigner.Yields FileSystem.rule (payBench money) []
      (.ok Operation.scribble) (payBench money) := .refl _ _
  have hprepare : (scribbling.prepareInvoke "j" "go" (some 5)).Yields FileSystem.rule
      (payBench money) []
      (.ok ⟨Operation.scribble, .invoke "cx01" "pay" none (some 5)
        (Workspace.Call.value ⟨"pay", none, some money⟩)⟩) (payBench money) :=
    hsigner.bind_silent
      ((Action.yields_mapError_ok.mpr (yields_address_of_landing rfl)).bind_silent
        ((Action.yields_mapError_ok.mpr hcall).bind_silent (.refl _ _)))
  obtain ⟨signed, hrefused, -⟩ := exists_yields_refusal
    (fun _ receipt => do
      Action.print receipt.toJson.pretty
      return receipt) hprepare fun h => by
        rw [Operation.perform, Submission.invoke]
        exact Action.yields_log_bind FileSystem.mayIdle_rule.mayLog h
  refine ⟨signed, .error (.submission (.node (.invalid "refused"))), ?_, hcall⟩
  rw [invoke_eq]
  exact hrefused

end

/-! ### Whole runs -/

/-- The money of a call that is taken from its file is what the file asks for: none if the file says
null or nothing about it, and otherwise what the text in it is read as. Every transaction that an
invocation sends brings this money. If the file asks for no quantity, an invocation and a query are
refused: they make no calls, change no file, and end with an error. -/
theorem Task.pays_costs (ctx : Context) (fs : FileSystem) (package name : String)
    (limit : Option UInt64) :
    (∀ calls call fs', (ctx.workspace.call package ctx.network name).Yields FileSystem.rule fs calls
        (.ok call) fs' → ∀ amount, ctx.Costs fs package name amount ↔ call.value = amount) ∧
      (∀ doc amount,
        Workspace.Says fs (ctx.workspace.callPath package ctx.network name) doc →
        ctx.Costs fs package name amount →
          doc.callMoney = .null ∧ amount = .zero ∨
            ∃ text, doc.callMoney = .text text ∧ HexNumeral.read text = .ok amount) ∧
      (∀ calls q fs',
        Reaches FileSystem.rule ((Task.invoke package name limit).run ctx).run fs calls q fs' →
          ∀ call ∈ calls, call.method = "icx_sendTransaction" →
            ∃ amount, ctx.Costs fs package name amount ∧ call.Pays amount) ∧
      ((∀ amount, ¬ctx.Costs fs package name amount) →
        ∀ task : Task, task = .invoke package name limit ∨ task = .query package name →
          ∀ calls q fs', Reaches FileSystem.rule (task.run ctx).run fs calls q fs' →
            calls = [] ∧ fs' = fs ∧ (∀ r, q = .done r → ∃ e, r = .error e) ∧
              ∃ e, Reaches FileSystem.rule q fs [] (.done (.error e)) fs) := by
  refine ⟨?_, fun doc amount hfile hcosts => hcosts.callMoney hfile, ?_, ?_⟩
  · intro calls call fs' h amount
    have hvalue := costs_of_yields h
    refine ⟨fun hcosts => hvalue.unique hcosts, ?_⟩
    rintro rfl
    exact hvalue
  · intro calls q fs' h
    -- What holds of the calls of all finished runs holds of those up to this point.
    obtain ⟨later, hcalls, -⟩ := Reaches.exists_later FileSystem.mayIdle_rule
      (fun _ _ _ hdone => pays_of_invoke hdone) h
    exact fun call hcall => hcalls call (List.mem_append_left later hcall)
  · intro hnone task htask calls q fs' h
    have hready : ¬task.IsReady ctx fs := by
      have hcall : ¬ctx.HasCall fs package name := fun hcall =>
        not_exists.mpr hnone (exists_costs_of_hasCall hcall)
      rcases htask with rfl | rfl
      · exact fun hready => hcall hready.2.2
      · exact fun hready => hcall hready.2
    have hrefuses := Task.refuses_of_not_isReady hready
    obtain ⟨hcalls, hfs, herror⟩ := hrefuses.of_reaches h
    exact ⟨hcalls, hfs, herror, hrefuses.exists_error h⟩

/-- Half a coin is sent along, as the file says. A file with `12` for the money is refused, since
this is no numeral. -/
theorem Task.pays_costs_half : ∃ half signed r text,
    half.toNat = 5 * 10 ^ 17 ∧ scribbling.Costs (payBench "0x6f05b59d3b20000") "j" "go" half ∧
      (∃ numeral, (Document.object
          [("method", .text "pay"), ("value", .text "0x6f05b59d3b20000")]).callMoney =
            .text numeral ∧ HexNumeral.read numeral = .ok half) ∧
      (scribbling.invoke "j" "go" (some 5)).Yields FileSystem.rule (payBench "0x6f05b59d3b20000")
        [refusal signed] r (payBench "0x6f05b59d3b20000") ∧
      Members.get? signed.params "value" = some (.string text) ∧ HexNumeral.read text = .ok half ∧
      ∃ e, ((Task.query "j" "go").run scribbling).Yields FileSystem.rule (payBench "12") []
        (.error e) (payBench "12") := by
  obtain ⟨half, hhalf, hread⟩ : ∃ half : Loop, half.toNat = 5 * 10 ^ 17 ∧
      HexNumeral.read "0x6f05b59d3b20000" = .ok half := ⟨⟨5 * 10 ^ 17, by decide⟩, rfl, by rfl⟩
  have hparts : Workspace.Call.readParts (payText "0x6f05b59d3b20000") =
    .ok ("pay", none, some "0x6f05b59d3b20000") := by rfl
  obtain ⟨signed, r, hinvoke, hcall⟩ := exists_yields_invoke_payBench hparts hread
  obtain ⟨htold, hsaid, hpaid, -⟩ := Task.pays_costs scribbling (payBench "0x6f05b59d3b20000") "j"
    "go" (some 5)
  have hcosts := (htold _ _ _ hcall half).mpr (Workspace.Call.value_eq_of_readValue hread)
  have hnumeral : IsEscaped "0x6f05b59d3b20000".toList "0x6f05b59d3b20000".toList :=
    isEscaped_self (by decide +kernel)
  have hmoney := (hsaid _ half (says_payBench hnumeral) hcosts).resolve_left fun h => nomatch h.1
  have hsend : (Node.Request.send signed).method = "icx_sendTransaction" := rfl
  obtain ⟨amount, hsame, hnone, hnumeral⟩ := hpaid _ _ _ hinvoke _ List.mem_cons_self hsend
  obtain rfl := hcosts.unique hsame
  -- Half a coin is not zero, so there is a member.
  obtain ⟨value, hvalue⟩ : ∃ value, Members.get? signed.params "value" = some value :=
    Option.ne_none_iff_exists'.mp fun h => absurd (hnone.mp h) (by rw [hhalf]; decide)
  obtain ⟨text, rfl, htext⟩ := hnumeral value hvalue
  obtain ⟨-, -, -, hrefused⟩ := Task.pays_costs scribbling (payBench "12") "j" "go" none
  obtain ⟨-, -, -, e, hquery⟩ :=
    hrefused not_costs_twelve (.query "j" "go") (.inr rfl) _ _ _ (.refl _ _)
  exact ⟨half, signed, r, text, hhalf, hcosts, hmoney, hinvoke, hvalue, htext, e, hquery⟩

end Context

end ScoreDeploy
