import ScoreDeploy.Proofs.Json.Members
import ScoreDeploy.Proofs.Submission.Calls

/-!
# What a node is asked to execute

There are four ways to submit a transaction. For each of them the params of the transaction name
whoever signs it, the recipient, the network, the money if there is any, the payload and the limit,
and an estimate is asked for the same params without the limit and the signature.
-/

namespace ScoreDeploy

open Json

/-! ### Members of transactions -/

theorem Payload.get?_paramsMember (params : Option Params) :
    Members.get? (paramsMember params) "params" = params.map .object := by
  cases params <;> rfl

namespace Transaction

variable (tx : Transaction) (limit : Option UInt64) (key : String)

theorem get?_params :
    Members.get? (tx.params limit) key =
      (Members.get? tx.payloadMembers.reverse key).or
        ((Members.get? tx.nonceMembers.reverse key).or
          ((Members.get? tx.valueMembers.reverse key).or
            ((Members.get? (limitMembers limit).reverse key).or
              (Members.get? tx.fixedMembers.reverse key)))) := by
  rw [params, Members.get?_ofList]
  simp only [List.reverse_append, Members.get?_append]

theorem get?_payloadMembers :
    Members.get? tx.payloadMembers.reverse key =
      if key = "data" then tx.payload.map fun payload => .object payload.data
      else if key = "dataType" then tx.payload.map fun payload => .string payload.kind
      else none := by
  rw [payloadMembers]
  cases tx.payload with
  | none => simp [Members.get?]
  | some payload =>
    simp only [List.reverse_cons, List.reverse_nil, List.nil_append, List.singleton_append,
      Members.get?_cons, Option.map_some]
    rfl

theorem get?_nonceMembers :
    Members.get? tx.nonceMembers.reverse key =
      if key = "nonce" then tx.nonce.map fun nonce => .string (HexNumeral.write nonce.toNat)
      else none := by
  rw [nonceMembers]
  cases tx.nonce with
  | none => simp [Members.get?]
  | some nonce => exact Members.get?_cons _ _ _

theorem get?_valueMembers :
    Members.get? tx.valueMembers.reverse key =
      if key = "value" ∧ tx.value.toNat ≠ 0 then some (.string (HexNumeral.write tx.value.toNat))
      else none := by
  rw [valueMembers]
  split_ifs with hzero hkey hkey
  · exact absurd hzero hkey.2
  · rfl
  · exact (Members.get?_cons _ _ _).trans (if_pos hkey.1)
  · exact (Members.get?_cons _ _ _).trans (if_neg fun h => hkey ⟨h, hzero⟩)

theorem get?_limitMembers :
    Members.get? (limitMembers limit).reverse key =
      if key = "stepLimit" then limit.map fun limit => .string (HexNumeral.write limit.toNat)
      else none := by
  cases limit with
  | none => simp [limitMembers, Members.get?]
  | some limit => exact Members.get?_cons _ _ _

theorem get?_fixedMembers :
    Members.get? tx.fixedMembers.reverse key =
      if key = "nid" then some (.string (HexNumeral.write tx.network.toNat))
      else if key = "timestamp" then
        some (.string (HexNumeral.write tx.timestamp.toUInt64.toNat))
      else if key = "to" then some (.string tx.recipient)
      else if key = "from" then some (.string tx.sender)
      else if key = "version" then some (.string "0x3")
      else none := by
  simp only [fixedMembers, List.reverse_cons, List.reverse_nil, List.nil_append, List.cons_append,
    Members.get?_cons]
  rfl

end Transaction

namespace Submission

/-! ### The four operations -/

/-- A way to submit a transaction. -/
inductive Operation where
  | install (contentType : String) (content : Bytes) (params : Option Params)
    (limit : Option UInt64)
  | update (recipient contentType : String) (content : Bytes) (params : Option Params)
    (limit : Option UInt64)
  | invoke (recipient method : String) (params : Option Params) (limit : Option UInt64)
    (value : Loop)
  | transfer (recipient : String) (amount : Loop) (limit : Option UInt64)

namespace Operation

/-- Submits the transaction. -/
def perform (terms : Terms) (signer : Signer) : Operation → Action Error String
  | install contentType content params limit =>
    Submission.install terms signer contentType content params limit
  | update recipient contentType content params limit =>
    Submission.deploy terms signer recipient contentType content params limit
  | invoke recipient method params limit value =>
    Submission.invoke terms signer recipient method params limit value
  | transfer recipient amount limit => Submission.transfer terms signer recipient amount limit

/-- Whom the transaction goes to; new code goes to the zero address. -/
def recipient : Operation → String
  | install .. => Address.zero
  | update recipient .. => recipient
  | invoke recipient .. => recipient
  | transfer recipient .. => recipient

/-- The money that is sent along; none with code. -/
def value : Operation → Loop
  | install .. => .zero
  | update .. => .zero
  | invoke _ _ _ _ value => value
  | transfer _ amount _ => amount

/-- What is sent along, its parameters in wire form; nothing with a transfer. -/
def payload : Operation → Option Payload
  | install contentType content params _ => some (.ofDeploy contentType content params)
  | update _ contentType content params _ => some (.ofDeploy contentType content params)
  | invoke _ method params _ _ => some (.ofCall method params)
  | transfer .. => none

/-- The limit that is given, or else the ceiling for operations of that kind, if there is one. -/
def limit (ceilings : StepLimits) : Operation → Option UInt64
  | install _ _ _ limit => limit
  | update _ _ _ _ limit => limit
  | invoke _ _ _ limit _ => some (limit.getD ceilings.invoke)
  | transfer _ _ limit => some (limit.getD ceilings.transfer)

/-- The transaction at a given time. -/
def transaction (op : Operation) (sender : String) (network : UInt64) (now : Int64) :
    Transaction where
  sender := sender
  recipient := op.recipient
  network := network
  value := op.value
  nonce := none
  timestamp := now
  payload := op.payload

/-- The params name all that there is to the operation under a limit. -/
structure Describes (op : Operation) (sender : String) (network limit : UInt64)
    (params : Params) : Prop where
  from_eq : Members.get? params "from" = some (.string sender)
  to_eq : Members.get? params "to" = some (.string op.recipient)
  nid_eq : Members.get? params "nid" = some (.string (HexNumeral.write network.toNat))
  stepLimit_eq : Members.get? params "stepLimit" = some (.string (HexNumeral.write limit.toNat))
  value_eq : Members.get? params "value" =
    if op.value.toNat = 0 then none else some (.string (HexNumeral.write op.value.toNat))
  dataType_eq : Members.get? params "dataType" =
    op.payload.map fun payload => .string payload.kind
  data_eq : Members.get? params "data" = op.payload.map fun payload => .object payload.data

/-- The limit of the operation, or else the number that the node has estimated in one of the
calls. -/
inductive IsLimit (op : Operation) (ceilings : StepLimits) (calls : List Call) (limit : UInt64) :
    Prop
  | fixed : op.limit ceilings = some limit → IsLimit op ceilings calls limit
  | estimated {call : Call} : op.limit ceilings = none → call ∈ calls →
      call.method = "debug_estimateStep" → call.HasSteps limit → IsLimit op ceilings calls limit

variable {σ : Type} {rule : MachineRule σ} {s t : σ} {calls : List Call} {r : Except Error String}
variable {terms : Terms} {signer : Signer} {op : Operation}

/-- The time is asked for once, before the transaction is submitted. -/
theorem exists_submits (h : (op.perform terms signer).Yields rule s calls r t) :
    ∃ now, Submits terms (op.transaction signer.address terms.network now) signer
      (op.limit terms.limits) calls r := by
  cases op with
  | install contentType content params limit =>
    obtain ⟨now, _, -, hsubmit⟩ := Action.yields_host_bind.mp h
    exact ⟨now, submits_of_yields hsubmit⟩
  | update recipient contentType content params limit =>
    obtain ⟨now, _, -, hsubmit⟩ := Action.yields_host_bind.mp h
    exact ⟨now, submits_of_yields hsubmit⟩
  | invoke recipient method params limit value =>
    obtain ⟨_, _, -, hrest⟩ := Action.yields_host_bind.mp h
    obtain ⟨now, _, -, hsubmit⟩ := Action.yields_host_bind.mp hrest
    exact ⟨now, submits_of_yields hsubmit⟩
  | transfer recipient amount limit =>
    obtain ⟨now, _, -, hsubmit⟩ := Action.yields_host_bind.mp h
    exact ⟨now, submits_of_yields hsubmit⟩

theorem exists_signed_params {tx : Transaction} {limit : UInt64} {signed : SignedTransaction}
    (h : tx.sign? limit signer = some signed) :
    ∃ signature, signed.params =
      Members.insert "signature" (.string signature) (tx.params (some limit)) := by
  simp only [Transaction.sign?, Option.bind_eq_bind, Option.bind_eq_some_iff] at h
  obtain ⟨signature, -, hsigned⟩ := h
  obtain rfl := Option.some.inj hsigned
  exact ⟨_, rfl⟩

theorem describes_signed {now : Int64} {limit : UInt64} {signed : SignedTransaction}
    (h : (op.transaction signer.address terms.network now).sign? limit signer = some signed) :
    op.Describes signer.address terms.network limit signed.params := by
  obtain ⟨signature, hparams⟩ := exists_signed_params h
  have hget : ∀ key, key ≠ "signature" → Members.get? signed.params key =
      Members.get? ((op.transaction signer.address terms.network now).params (some limit)) key :=
    fun key hkey => by rw [hparams, Members.get?_insert, if_neg hkey]
  constructor
  all_goals
    rw [hget _ (by decide)]
    simp [Transaction.get?_params, Transaction.get?_payloadMembers, Transaction.get?_nonceMembers,
      Transaction.get?_valueMembers, Transaction.get?_limitMembers, Transaction.get?_fixedMembers,
      transaction]

/-- The limit and the signature are no members of anything else. -/
theorem without_parts (tx : Transaction) (limit : UInt64) :
    Members.without ["stepLimit", "signature"]
        (tx.fixedMembers ++ Transaction.limitMembers (some limit) ++ tx.valueMembers ++
          tx.nonceMembers ++ tx.payloadMembers) =
      tx.fixedMembers ++ Transaction.limitMembers none ++ tx.valueMembers ++ tx.nonceMembers ++
        tx.payloadMembers := by
  have hfixed : Members.without ["stepLimit", "signature"] tx.fixedMembers = tx.fixedMembers := by
    simp [Members.without, Transaction.fixedMembers, Transaction.numeralMember]
  have hlimit : Members.without ["stepLimit", "signature"]
      (Transaction.limitMembers (some limit)) = [] := by
    simp [Members.without, Transaction.limitMembers, Transaction.numeralMember]
  have hvalue : Members.without ["stepLimit", "signature"] tx.valueMembers = tx.valueMembers := by
    rw [Transaction.valueMembers]
    split_ifs <;> simp [Members.without, Transaction.numeralMember]
  have hnonce : Members.without ["stepLimit", "signature"] tx.nonceMembers = tx.nonceMembers := by
    rw [Transaction.nonceMembers]
    cases tx.nonce <;> simp [Members.without, Transaction.numeralMember]
  have hpayload : Members.without ["stepLimit", "signature"] tx.payloadMembers =
      tx.payloadMembers := by
    rw [Transaction.payloadMembers]
    cases tx.payload <;> simp [Members.without]
  rw [Members.without_append, Members.without_append, Members.without_append,
    Members.without_append, hfixed, hlimit, hvalue, hnonce, hpayload]
  rfl

/-- What is estimated is what is signed, but for the limit. -/
theorem without_signed {tx : Transaction} {limit : UInt64} {signed : SignedTransaction}
    (h : tx.sign? limit signer = some signed) :
    tx.params none = Members.without ["stepLimit", "signature"] signed.params := by
  obtain ⟨signature, hparams⟩ := exists_signed_params h
  rw [hparams, Transaction.params, Transaction.params,
    Members.without_insert (Members.isSorted_ofList _), if_pos (by simp), Members.without_ofList,
    without_parts]

theorem estimate_of_mem {tx : Transaction} {given : Option UInt64} {r : Except Error UInt64}
    (h : Limits terms tx given calls r) : ∀ call ∈ calls, call.request = .estimate tx := by
  cases h with
  | given limit => exact List.forall_mem_nil _
  | notEstimated _ => exact List.forall_mem_singleton.mpr rfl
  | estimated _ => exact List.forall_mem_singleton.mpr rfl

theorem send_of_mem {tx : Transaction} {limit : UInt64} (h : Sends terms tx signer limit calls r) :
    ∀ call ∈ calls,
      ∃ signed, call.request = .send signed ∧ tx.sign? limit signer = some signed := by
  cases h with
  | unsigned _ => exact List.forall_mem_nil _
  | refused hsigned _ => exact List.forall_mem_singleton.mpr ⟨_, rfl, hsigned⟩
  | accepted hsigned _ => exact List.forall_mem_singleton.mpr ⟨_, rfl, hsigned⟩

/-- Whether it is estimated or sent, a transaction of the operation was asked about; only the
signature is added. -/
theorem exists_transaction_of_mem (h : (op.perform terms signer).Yields rule s calls r t) :
    ∀ call ∈ calls, ∃ now limit, ∀ key, key ≠ "signature" → Members.get? call.params key =
      Members.get? ((op.transaction signer.address terms.network now).params limit) key := by
  obtain ⟨now, hsubmits⟩ := exists_submits h
  have hestimates : ∀ {calls r}, Limits terms (op.transaction signer.address terms.network now)
      (op.limit terms.limits) calls r → ∀ call ∈ calls, ∃ now limit, ∀ key, key ≠ "signature" →
        Members.get? call.params key =
          Members.get? ((op.transaction signer.address terms.network now).params limit) key := by
    intro calls r hlimits call hcall
    rw [Call.params, estimate_of_mem hlimits call hcall]
    exact ⟨now, none, fun _ _ => rfl⟩
  cases hsubmits with
  | unlimited hlimits => exact hestimates hlimits
  | @limited limit _ _ _ hlimits hsends =>
    refine List.forall_mem_append.mpr ⟨hestimates hlimits, fun call hcall => ?_⟩
    obtain ⟨signed, hrequest, hsign⟩ := send_of_mem hsends call hcall
    obtain ⟨signature, hparams⟩ := exists_signed_params hsign
    refine ⟨now, some limit, fun key hkey => ?_⟩
    rw [Call.params, hrequest]
    change Members.get? signed.params key = _
    rw [hparams, Members.get?_insert, if_neg hkey]

/-- Every transaction names the recipient, the money and the payload of the operation. -/
theorem members_of_mem (h : (op.perform terms signer).Yields rule s calls r t) :
    ∀ call ∈ calls, Members.get? call.params "to" = some (.string op.recipient) ∧
      Members.get? call.params "value" =
        (if op.value.toNat = 0 then none else some (.string (HexNumeral.write op.value.toNat))) ∧
      Members.get? call.params "data" = op.payload.map fun payload => .object payload.data := by
  intro call hcall
  obtain ⟨now, limit, hget⟩ := exists_transaction_of_mem h call hcall
  rw [hget "to" (by decide), hget "value" (by decide), hget "data" (by decide)]
  simp [Transaction.get?_params, Transaction.get?_payloadMembers, Transaction.get?_nonceMembers,
    Transaction.get?_valueMembers, Transaction.get?_limitMembers, Transaction.get?_fixedMembers,
    transaction]

theorem to_eq_of_mem (h : (op.perform terms signer).Yields rule s calls r t) :
    ∀ call ∈ calls, Members.get? call.params "to" = some (.string op.recipient) :=
  fun call hcall => (members_of_mem h call hcall).1

theorem value_eq_of_mem (h : (op.perform terms signer).Yields rule s calls r t) :
    ∀ call ∈ calls, Members.get? call.params "value" =
      if op.value.toNat = 0 then none else some (.string (HexNumeral.write op.value.toNat)) :=
  fun call hcall => (members_of_mem h call hcall).2.1

theorem data_eq_of_mem (h : (op.perform terms signer).Yields rule s calls r t) :
    ∀ call ∈ calls, Members.get? call.params "data" =
      op.payload.map fun payload => .object payload.data :=
  fun call hcall => (members_of_mem h call hcall).2.2

/-- The limit that a transaction is signed under is known from the calls before. -/
theorem isLimit_of_limits {tx : Transaction} {limit : UInt64} {later : List Call}
    (h : Limits terms tx (op.limit terms.limits) calls (.ok limit)) :
    op.IsLimit terms.limits (calls ++ later) limit := by
  generalize hgiven : op.limit terms.limits = given at h
  cases h with
  | given => exact .fixed hgiven
  | estimated hsteps =>
    exact .estimated hgiven (List.mem_append_left _ List.mem_cons_self) rfl hsteps

/-- The params of every transaction that is submitted describe the operation, its sender being
whoever signs; those of an estimate are the same without the limit and the signature. -/
theorem describes_submitted (terms : Terms) (signer : Signer) (op : Operation)
    (h : (op.perform terms signer).Yields rule s calls r t) :
    (∀ call ∈ calls, call.method = "icx_sendTransaction" → ∃ limit,
      op.IsLimit terms.limits calls limit ∧
        op.Describes signer.address terms.network limit call.params) ∧
      ∀ est ∈ calls, est.method = "debug_estimateStep" →
        ∀ call ∈ calls, call.method = "icx_sendTransaction" →
          est.params = Members.without ["stepLimit", "signature"] call.params := by
  obtain ⟨now, hsubmits⟩ := exists_submits h
  cases hsubmits with
  | unlimited hlimits =>
    -- Nothing is submitted after an estimate without a number.
    have hno : ∀ call ∈ calls, call.method ≠ "icx_sendTransaction" := fun call hcall => by
      rw [Call.method, estimate_of_mem hlimits call hcall]
      simp [Node.Request.method]
    exact ⟨fun call hcall hmethod => absurd hmethod (hno call hcall),
      fun _ _ _ call hcall hmethod => absurd hmethod (hno call hcall)⟩
  | @limited limit calls₁ calls₂ _ hlimits hsends =>
    have hsigned : ∀ call ∈ calls₁ ++ calls₂, call.method = "icx_sendTransaction" →
        ∃ signed, call.request = .send signed ∧ (op.transaction signer.address terms.network
          now).sign? limit signer = some signed := fun call hcall hmethod => by
      rcases List.mem_append.mp hcall with hcall | hcall
      · rw [Call.method, estimate_of_mem hlimits call hcall] at hmethod
        exact absurd hmethod (by simp [Node.Request.method])
      · exact send_of_mem hsends call hcall
    constructor
    · intro call hcall hmethod
      obtain ⟨signed, hrequest, hsign⟩ := hsigned call hcall hmethod
      refine ⟨limit, isLimit_of_limits hlimits, ?_⟩
      rw [Call.params, hrequest]
      exact describes_signed hsign
    · intro est hest hestimate call hcall hmethod
      obtain ⟨signed, hrequest, hsign⟩ := hsigned call hcall hmethod
      have hest : est.request = .estimate (op.transaction signer.address terms.network now) := by
        rcases List.mem_append.mp hest with hest | hest
        · exact estimate_of_mem hlimits est hest
        · obtain ⟨_, hrequest, -⟩ := send_of_mem hsends est hest
          rw [Call.method, hrequest] at hestimate
          exact absurd hestimate (by simp [Node.Request.method])
      rw [Call.params, hest, Call.params, hrequest]
      exact without_signed hsign

/-- A signer whose signatures are empty. -/
def scribble : Signer :=
  ⟨"hx0000000000000000000000000000000000000001", fun _ => some []⟩

/-- A deployment of two bytes. -/
def twoBytes : Operation :=
  .install "application/java" [0xca, 0xfe] (some [("n", .bool true)]) none

/-- A node estimates sixteen steps and then does not take the code: the transaction that it saw
names the zero address, no money, and the boolean in wire form. -/
theorem describes_submitted_install : ∃ tx signed r,
    (perform ⟨"http://node", 1, {}, {}⟩ scribble twoBytes).Yields anything ()
        [⟨"http://node", .estimate tx, .ok (.object [("result", .string "0x10")])⟩,
          ⟨"http://node", .send signed, .error (.invalid "refused")⟩] r () ∧
      Members.get? signed.params "to" = some (.string Address.zero) ∧
      Members.get? signed.params "value" = none ∧
      Members.get? signed.params "data" = some (.object [("content", .string "0xcafe"),
        ("contentType", .string "application/java"), ("params", .object [("n", .string "0x1")])]) ∧
      tx.params none = Members.without ["stepLimit", "signature"] signed.params := by
  let tx : Transaction := twoBytes.transaction scribble.address 1 7
  obtain ⟨signed, hsigned⟩ : ∃ signed, tx.sign? 16 scribble = some signed := ⟨_, rfl⟩
  have hsubmits : Submits ⟨"http://node", 1, {}, {}⟩ tx scribble none
      ([⟨"http://node", .estimate tx, .ok (.object [("result", .string "0x10")])⟩] ++
        [⟨"http://node", .send signed, .error (.invalid "refused")⟩])
      (.error (.node (.invalid "refused"))) :=
    .limited (.estimated ⟨"0x10", ⟨_, rfl, rfl⟩, by decide⟩) (.refused hsigned rfl)
  have hyields : (perform ⟨"http://node", 1, {}, {}⟩ scribble twoBytes).Yields anything () _ _ () :=
    Action.yields_host_bind.mpr ⟨(7 : Int64), (), trivial, hsubmits.yields mayIdle_anything.mayLog⟩
  obtain ⟨hdescribes, hestimate⟩ := describes_submitted _ scribble twoBytes hyields
  obtain ⟨_, -, hparams⟩ := hdescribes _ (List.mem_of_getElem? (i := 1) rfl) rfl
  exact ⟨tx, signed, _, hyields, hparams.to_eq, hparams.value_eq, hparams.data_eq,
    hestimate _ (List.mem_of_getElem? (i := 0) rfl) rfl _ (List.mem_of_getElem? (i := 1) rfl) rfl⟩

end Operation

end Submission

end ScoreDeploy
