import ScoreDeploy.Proofs.Command.Targets
import ScoreDeploy.Proofs.Workspace.Parameters

/-!
# The parameters that contracts receive

Deployments and updates take their parameters from a file of the workspace, invocations and queries
from the file of a call. Whatever a run asks the node to execute or to answer has these parameters
in wire form: every integer literal that 64 bits hold is the hexadecimal numeral of its number.
-/

namespace ScoreDeploy

open Json

/-- Unless it asks what became of a transaction, the call brings these parameters to a contract. -/
def Call.Brings (params : Option Json) (call : Call) : Prop :=
  call.method ≠ "icx_getTransactionResult" → ∃ data,
    Members.get? call.params "data" = some (.object data) ∧ Members.get? data "params" = params

/-! ### Payloads -/

theorem Payload.get?_data_ofDeploy (contentType : String) (content : Bytes)
    (params : Option Params) : Members.get? (ofDeploy contentType content params).data "params" =
      params.map fun params => .object (Params.wireForm params) := by
  have hcontent : "params" ≠ "content" := by decide
  have hcontentType : "params" ≠ "contentType" := by decide
  rw [ofDeploy, data, Members.get?_cons, if_neg hcontent, Members.get?_cons, if_neg hcontentType,
    get?_paramsMember, Option.map_map]
  rfl

theorem Payload.get?_data_ofCall (method : String) (params : Option Params) :
    Members.get? (ofCall method params).data "params" =
      params.map fun params => .object (Params.wireForm params) := by
  have hmethod : "params" ≠ "method" := by decide
  rw [ofCall, data, Members.get?_cons, if_neg hmethod, get?_paramsMember, Option.map_map]
  rfl

theorem Query.get?_data_wireParams (query : Query) :
    Members.get? query.wireParams "data" =
      some (.object (Payload.data (.call query.method query.params))) := by
  rw [wireParams, Members.get?_ofList, List.reverse_append, Members.get?_append]
  simp [Members.get?_cons]

namespace Context

open Submission

section

variable {ctx : Context} {package name : String} {limit : Option UInt64} {prepared : Prepared}
variable {fs fs' : FileSystem} {calls : List Call} {doc : Document}

/-! ### Preparing -/

/-- Code goes with the parameters in the file for the network. -/
theorem sent?_of_params {rest : Params → Step Prepared}
    (hfile : Workspace.Says fs (ctx.workspace.paramsPath package ctx.network) doc)
    (hintegral : doc.IsIntegral)
    (hrest : ∀ params, (rest params).Ensures fun p =>
      ∃ content, p.operation.payload = some (.ofDeploy contentType content (some params)))
    (h : (do
      let params ← onWorkspace (ctx.workspace.params package ctx.network)
      rest params : Step Prepared).Yields FileSystem.rule fs calls (.ok prepared) fs') :
    ∃ payload, prepared.operation.payload = some payload ∧
      Members.get? payload.data "params" = doc.sent? := by
  obtain ⟨params, hparams, hprepare⟩ :=
    (Action.AsksOnly.mapError _ (Workspace.looks_params _ _ _)).exists_yields_of_bind
      FileSystem.keepsLooking_rule h
  obtain ⟨htells, -, -⟩ := Workspace.yields_params_ok.mp (Action.yields_mapError_ok.mp hparams)
  obtain ⟨text, htext, hread⟩ := hfile.exists_text htells
  obtain ⟨content, hpayload⟩ := (hrest params).of_yields hprepare
  refine ⟨_, hpayload, ?_⟩
  rw [Payload.get?_data_ofDeploy, Workspace.sent?_of_readParams htext hintegral hread]
  rfl

theorem sent?_of_prepareDeploy
    (hfile : Workspace.Says fs (ctx.workspace.paramsPath package ctx.network) doc)
    (hintegral : doc.IsIntegral)
    (h : (ctx.prepareDeploy package limit).Yields FileSystem.rule fs calls (.ok prepared) fs') :
    ∃ payload, prepared.operation.payload = some payload ∧
      Members.get? payload.data "params" = doc.sent? := by
  obtain ⟨signer, -, h⟩ :=
    (looks_requireSigner ctx).exists_yields_of_bind FileSystem.keepsLooking_rule h
  obtain ⟨artifact, -, h⟩ :=
    (Action.AsksOnly.mapError _ (Workspace.looks_artifact _ _)).exists_yields_of_bind
      FileSystem.keepsLooking_rule h
  exact sent?_of_params hfile hintegral (fun _ => .bind fun _ => .pure ⟨_, rfl⟩) h

theorem sent?_of_prepareUpdate
    (hfile : Workspace.Says fs (ctx.workspace.paramsPath package ctx.network) doc)
    (hintegral : doc.IsIntegral)
    (h : (ctx.prepareUpdate package limit).Yields FileSystem.rule fs calls (.ok prepared) fs') :
    ∃ payload, prepared.operation.payload = some payload ∧
      Members.get? payload.data "params" = doc.sent? := by
  obtain ⟨signer, -, h⟩ :=
    (looks_requireSigner ctx).exists_yields_of_bind FileSystem.keepsLooking_rule h
  obtain ⟨address, -, h⟩ :=
    (Action.AsksOnly.mapError _ (Workspace.looks_address _ _ _)).exists_yields_of_bind
      FileSystem.keepsLooking_rule h
  obtain ⟨artifact, -, h⟩ :=
    (Action.AsksOnly.mapError _ (Workspace.looks_artifact _ _)).exists_yields_of_bind
      FileSystem.keepsLooking_rule h
  exact sent?_of_params hfile hintegral (fun _ => .bind fun _ => .pure ⟨_, rfl⟩) h

/-- What is called gets the parameters in the file of the call. -/
theorem sent?_of_call {call : Workspace.Call}
    (hfile : Workspace.Says fs (ctx.workspace.callPath package ctx.network name) doc)
    (hintegral : doc.callParams.IsIntegral)
    (h : (ctx.workspace.call package ctx.network name).Yields FileSystem.rule fs calls (.ok call)
      fs') :
    Members.get? (Payload.ofCall call.method call.params).data "params" = doc.callParams.sent? := by
  obtain ⟨htells, -, -, -⟩ := Workspace.yields_call_ok.mp h
  obtain ⟨text, htext, hread⟩ := hfile.exists_text htells
  rw [Payload.get?_data_ofCall, Workspace.Call.sent?_of_readParts htext hintegral hread]

/-- An invocation is prepared from the call in the file, which is read last. -/
theorem exists_call_of_prepareInvoke
    (h : (ctx.prepareInvoke package name limit).Yields FileSystem.rule fs calls (.ok prepared)
      fs') :
    ∃ address call,
      (ctx.workspace.call package ctx.network name).Yields FileSystem.rule fs [] (.ok call) fs ∧
        prepared.operation = .invoke address call.method call.params limit call.value := by
  obtain ⟨signer, -, h⟩ :=
    (looks_requireSigner ctx).exists_yields_of_bind FileSystem.keepsLooking_rule h
  obtain ⟨address, -, h⟩ :=
    (Action.AsksOnly.mapError _ (Workspace.looks_address _ _ _)).exists_yields_of_bind
      FileSystem.keepsLooking_rule h
  obtain ⟨call, hcall, h⟩ :=
    (Action.AsksOnly.mapError _ (Workspace.looks_call _ _ _ _)).exists_yields_of_bind
      FileSystem.keepsLooking_rule h
  obtain ⟨-, hprepared, -⟩ := Action.yields_pure.mp h
  obtain rfl := Except.ok.inj hprepared
  exact ⟨address, call, Action.yields_mapError_ok.mp hcall, rfl⟩

theorem sent?_of_prepareInvoke
    (hfile : Workspace.Says fs (ctx.workspace.callPath package ctx.network name) doc)
    (hintegral : doc.callParams.IsIntegral)
    (h : (ctx.prepareInvoke package name limit).Yields FileSystem.rule fs calls (.ok prepared)
      fs') :
    ∃ payload, prepared.operation.payload = some payload ∧
      Members.get? payload.data "params" = doc.callParams.sent? := by
  obtain ⟨address, call, hcall, hoperation⟩ := exists_call_of_prepareInvoke h
  rw [hoperation]
  exact ⟨_, rfl, sent?_of_call hfile hintegral hcall⟩

end

section

variable {σ α : Type} {rule : MachineRule σ} {s t : σ} {ctx : Context} {prepare : Step Prepared}
variable {calls : List Call} {params : Option Json}

theorem brings_of_submitting {finish : String → Receipt → Step α} {r : Except Failure α}
    (hlooks : prepare.AsksOnly Effect.Looks)
    (hfinish : ∀ hash receipt, (finish hash receipt).AsksOnly Effect.IsHost)
    (hpayload : ∀ prepared m, prepare.Yields rule s [] (.ok prepared) m → ∃ payload,
      prepared.operation.payload = some payload ∧ Members.get? payload.data "params" = params)
    (h : (ctx.submitting prepare finish).Yields rule s calls r t) :
    ∀ call ∈ calls, call.Brings params := by
  rcases performs_of_submitting hlooks hfinish h with
    ⟨_, rfl, -⟩ | ⟨prepared, m, hprepared, sent, outcome, m', hperform, hsent⟩
  · exact List.forall_mem_nil _
  · obtain ⟨payload, hsome, hparams⟩ := hpayload prepared m hprepared
    intro call hcall hmethod
    have hdata := Operation.data_eq_of_mem hperform call (hsent call hcall hmethod)
    rw [hsome] at hdata
    exact ⟨payload.data, hdata, hparams⟩

end

/-! ### Tasks -/

namespace Task

/-- What the parameters of the task are, according to the file that it takes them from. -/
inductive Finds (ctx : Context) (fs : FileSystem) : Task → Document → Prop
  | deploy {package : String} {limit : Option UInt64} {doc : Document} :
      Workspace.Says fs (ctx.workspace.paramsPath package ctx.network) doc →
        Finds ctx fs (.deploy package limit) doc
  | update {package : String} {limit : Option UInt64} {doc : Document} :
      Workspace.Says fs (ctx.workspace.paramsPath package ctx.network) doc →
        Finds ctx fs (.update package limit) doc
  | invoke {package name : String} {limit : Option UInt64} {doc : Document} :
      Workspace.Says fs (ctx.workspace.callPath package ctx.network name) doc →
        Finds ctx fs (.invoke package name limit) doc.callParams
  | query {package name : String} {doc : Document} :
      Workspace.Says fs (ctx.workspace.callPath package ctx.network name) doc →
        Finds ctx fs (.query package name) doc.callParams

variable {ctx : Context} {task : Task} {doc : Document} {calls : List Call}
variable {fs fs' : FileSystem}

theorem brings_of_yields {r : Except Failure task.Result} (hfinds : task.Finds ctx fs doc)
    (hintegral : doc.IsIntegral) (h : (task.run ctx).Yields FileSystem.rule fs calls r fs') :
    ∀ call ∈ calls, call.Brings doc.sent? := by
  cases hfinds with
  | deploy hfile =>
    rw [run, deploy_eq] at h
    exact brings_of_submitting (looks_prepareDeploy _ _ _) (fun _ => isHost_keepRecord _ _)
      (fun _ _ => sent?_of_prepareDeploy hfile hintegral) h
  | update hfile =>
    rw [run, update_eq] at h
    exact brings_of_submitting (looks_prepareUpdate _ _ _) (fun _ => isHost_keepRecord _ _)
      (fun _ _ => sent?_of_prepareUpdate hfile hintegral) h
  | invoke hfile =>
    rw [run, invoke_eq] at h
    exact brings_of_submitting (looks_prepareInvoke _ _ _ _)
      (fun _ _ => .bind (.host trivial) fun _ => .pure _)
      (fun _ _ => sent?_of_prepareInvoke hfile hintegral) h
  | query hfile =>
    rcases calls_of_query h with
      ⟨_, rfl, -⟩ | ⟨address, m, haddress, rfl | ⟨call, m', reply, hcall, rfl⟩⟩
    · exact List.forall_mem_nil _
    · exact List.forall_mem_nil _
    · -- The address is looked up first, which leaves the file of the call as it was.
      obtain rfl : m = fs :=
        (Workspace.looks_address _ _ _).keeps.state_eq FileSystem.keepsLooking_rule haddress
      refine List.forall_mem_singleton.mpr fun _ => ?_
      exact ⟨_, Query.get?_data_wireParams _, sent?_of_call hfile hintegral hcall⟩

end Task

/-! ### A deployment with one number -/

section

set_option maxRecDepth 20000

/-- The parameters of a deployment that takes one number. -/
def countText (n : Nat) : String :=
  "\x7b\"n\":" ++ (String.ofList (Nat.toDigits 10 n) ++ "\x7d")

/-- The workbench with these parameters. -/
def countBench (n : Nat) : FileSystem :=
  workbench.put (placeOf ["config", "deploy", "j", "local", "params.json"])
    (.file (Bytes.ofText (countText n)))

theorem isTextOf_countText (n : Nat) :
    IsTextOf (countText n).toList (.object [("n", .integer false n)]) := by
  have hkey : IsKeyText ['"', 'n', '"'] "n" :=
    ⟨[], ['n'], [], areBlank_nil, areBlank_nil,
      .plain (by decide) (by decide) (by decide) .nil, rfl⟩
  have htext : (countText n).toList = '\x7b' :: (separated
      ([⟨['"', 'n', '"'], "n", Nat.toDigits 10 n, .integer false n⟩].map MemberText.chars) ++
        ['\x7d']) := by
    simp [countText, separated, MemberText.chars]
  rw [htext]
  exact .object (List.cons_ne_nil _ _) (List.forall_mem_singleton.mpr hkey)
    (List.forall_mem_singleton.mpr (.integer false n))

theorem says_countBench (n : Nat) : Workspace.Says (countBench n)
    (scribbling.workspace.paramsPath "j" "local") (.object [("n", .integer false n)]) :=
  ⟨_, _, rfl, Bytes.toText?_ofText _, isTextOf_countText n⟩

theorem isIntegral_count (n : Nat) : (Document.object [("n", .integer false n)]).IsIntegral :=
  .object (List.forall_mem_singleton.mpr (.integer false n))

theorem yields_artifact_countBench (n : Nat) :
    (onWorkspace (scribbling.workspace.artifact "j")).Yields FileSystem.rule (countBench n) []
      (.ok (scribbling.workspace.artifactPath ⟨"j", none, "b"⟩, [0xca, 0xfe])) (countBench n) := by
  have hbuild : Workspace.Tells (countBench n) Workspace.Build.read
      (scribbling.workspace.buildPath "j") ⟨"j", none, "b"⟩ :=
    ⟨_, _, rfl, Bytes.toText?_ofText _, rfl⟩
  exact Action.yields_mapError_ok.mpr
    (Workspace.yields_artifact_ok.mpr ⟨_, hbuild, rfl, rfl, rfl, rfl⟩)

/-- The node is asked to execute the deployment and refuses it. -/
theorem exists_yields_deploy_countBench {n : Nat} {params : Params}
    (hread : Workspace.readParams (countText n) = .ok params) : ∃ signed r,
      (scribbling.deploy "j" (some 5)).Yields FileSystem.rule (countBench n) [refusal signed] r
          (countBench n) ∧
        Members.get? signed.params "data" =
          some (.object (Payload.ofDeploy contentType [0xca, 0xfe] (some params)).data) := by
  have htells : Workspace.Tells (countBench n) Workspace.readParams
      (scribbling.workspace.paramsPath "j" "local") params :=
    ⟨_, _, rfl, Bytes.toText?_ofText _, hread⟩
  have hsigner : scribbling.requireSigner.Yields FileSystem.rule (countBench n) []
      (.ok Operation.scribble) (countBench n) := .refl _ _
  have hparams : (onWorkspace (scribbling.workspace.params "j" "local")).Yields FileSystem.rule
      (countBench n) [] (.ok params) (countBench n) :=
    Action.yields_mapError_ok.mpr (Workspace.yields_params_ok.mpr ⟨htells, rfl, rfl⟩)
  have hprepare : (scribbling.prepareDeploy "j" (some 5)).Yields FileSystem.rule (countBench n) []
      (.ok ⟨Operation.scribble, .install contentType [0xca, 0xfe] (some params) (some 5)⟩)
        (countBench n) :=
    hsigner.bind_silent ((yields_artifact_countBench n).bind_silent
      (hparams.bind_silent (Action.yields_log_bind FileSystem.mayIdle_rule.mayLog (.refl _ _))))
  obtain ⟨signed, hrefused, hdescribes⟩ :=
    exists_yields_refusal (fun _ => scribbling.keepRecord "j") hprepare fun h => h
  refine ⟨signed, .error (.submission (.node (.invalid "refused"))), ?_, hdescribes.data_eq⟩
  rw [deploy_eq]
  exact hrefused

/-- The text that is sent for the number. -/
def sentCount? (n : Nat) : Option String :=
  ((Workspace.readParams (countText n)).toOption.bind fun params =>
    Members.get? (Params.wireForm params) "n").bind Json.string?

theorem exists_readParams_of_sentCount? {n : Nat} {s : String} (h : sentCount? n = some s) :
    ∃ params, Workspace.readParams (countText n) = .ok params ∧
      Members.get? (Params.wireForm params) "n" = some (.string s) := by
  rw [sentCount?] at h
  cases hread : Workspace.readParams (countText n) with
  | error f =>
    rw [hread] at h
    cases h
  | ok params =>
    rw [hread] at h
    refine ⟨params, rfl, ?_⟩
    obtain ⟨value, hvalue, hs⟩ := Option.bind_eq_some_iff.mp h
    cases value with
    | string t =>
      obtain rfl := Option.some.inj hs
      exact hvalue
    | _ => cases hs

end

/-! ### Whole runs -/

section

variable {ctx : Context} {task : Task} {doc : Document} {calls : List Call}
variable {fs fs' : FileSystem}

/-- Let the parameters of a deployment, an update, an invocation or a query be a document in which
all numbers are integer literals, of any magnitude. Then at every point of every run, whatever the
node was asked to execute, to estimate or to answer brings the wire form of this document: each
literal that fits 64 bits and is no zero with a sign is replaced by the hexadecimal numeral of its
number, any other literal by the text of a float, each boolean by `0x1` or `0x0`, and nothing else
is changed. No text of a float is the numeral of the number. -/
theorem Task.brings_params {q : Program effects (Except Failure task.Result)}
    (hfinds : task.Finds ctx fs doc) (hintegral : doc.IsIntegral)
    (h : Reaches FileSystem.rule (task.run ctx).run fs calls q fs') :
    (∀ call ∈ calls, call.Brings doc.sent?) ∧
      ∀ negative k, Document.literalText negative k =
        Document.hexNumeral (Document.integerValue negative k) ↔
          Document.FitsInteger negative k := by
  -- What holds of the calls of all finished runs holds of those up to this point.
  have hfinished : ∀ calls r fs',
      Reaches FileSystem.rule (task.run ctx).run fs calls (.done r) fs' →
        ∀ call ∈ calls, call.Brings doc.sent? :=
    fun _ _ _ => Task.brings_of_yields hfinds hintegral
  obtain ⟨later, hcalls, -⟩ := Reaches.exists_later FileSystem.mayIdle_rule hfinished h
  exact ⟨fun call hcall => hcalls call (List.mem_append_left later hcall),
    literalText_eq_hexNumeral_iff⟩

end

/-- The number 255 is sent as `0xff`. -/
theorem brings_params_deploy : ∃ signed r data,
    (scribbling.deploy "j" (some 5)).Yields FileSystem.rule (countBench 255) [refusal signed] r
        (countBench 255) ∧
      Members.get? signed.params "data" = some (.object data) ∧
      Members.get? data "params" = some (.object [("n", .string "0xff")]) := by
  have hsent : sentCount? 255 = some "0xff" := by decide +kernel
  obtain ⟨params, hread, -⟩ := exists_readParams_of_sentCount? hsent
  obtain ⟨signed, r, hdeploy, -⟩ := exists_yields_deploy_countBench hread
  have hsend : (Node.Request.send signed).method ≠ "icx_getTransactionResult" := by
    simp [Node.Request.method]
  obtain ⟨data, hdata, hparams⟩ := (Task.brings_params (.deploy (says_countBench 255))
    (isIntegral_count 255) hdeploy).1 _ List.mem_cons_self hsend
  exact ⟨signed, r, data, hdeploy, hdata, hparams⟩

/-- The number `2 ^ 64` does not fit 64 bits and is sent as the text of a float. -/
theorem brings_params_large : ∃ signed r data params,
    (scribbling.deploy "j" (some 5)).Yields FileSystem.rule (countBench 0x10000000000000000)
        [refusal signed] r (countBench 0x10000000000000000) ∧
      Members.get? signed.params "data" = some (.object data) ∧
      Members.get? data "params" = some (.object params) ∧
      Members.get? params "n" = some (.string "1.8446744073709552e+19") ∧
      "1.8446744073709552e+19" ≠ Document.hexNumeral 0x10000000000000000 := by
  have hsent : sentCount? 0x10000000000000000 = some "1.8446744073709552e+19" := by
    decide +kernel
  obtain ⟨params, hread, hn⟩ := exists_readParams_of_sentCount? hsent
  obtain ⟨signed, r, hdeploy, hdata⟩ := exists_yields_deploy_countBench hread
  refine ⟨signed, r, _, Params.wireForm params, hdeploy, hdata, ?_, hn, by decide +kernel⟩
  exact Payload.get?_data_ofDeploy _ _ _

end Context

end ScoreDeploy
