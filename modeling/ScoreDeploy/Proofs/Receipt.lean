import ScoreDeploy.Proofs.Json.Depth
import ScoreDeploy.Proofs.Json.Record
import ScoreDeploy.Proofs.Submission.Calls

/-!
# Reading receipts back

A receipt that a node has sent is written to a file and read from it later. What is read is the same
receipt, if the numbers in it can be read back.
-/

namespace ScoreDeploy

namespace Receipt

open Json

/-- All members of the object that a receipt is written as. -/
def members (receipt : Receipt) : Json.Members :=
  ("status", .string receipt.status) :: (textMember "scoreAddress" receipt.contract ++
    textMember "txHash" receipt.hash ++ receipt.others)

/-- The members that a receipt is read from. -/
def fields : List (Label × Shape) :=
  [(⟨"status", [], true⟩, .text), (⟨"scoreAddress", [], false⟩, .optional .text),
    (⟨"txHash", [], false⟩, .optional .text)]

/-- The other members of the receipt are in order, none of them has a known key, and they can be
read back one by one. -/
structure IsWritable (receipt : Receipt) : Prop where
  isSorted : receipt.others.IsSorted
  isUnknown : ∀ m ∈ receipt.others, m.1 ∉ knownKeys
  isCanonical : ∀ m ∈ receipt.others, m.2.IsCanonical
  fits : ∀ m ∈ receipt.others, Fits Number.IsToken 126 m.2

variable {receipt : Receipt}

theorem mem_textMember {key : String} {s : Option String} {m : String × Json}
    (h : m ∈ textMember key s) : ∃ t, m = (key, .string t) := by
  cases s with
  | none => cases h
  | some t => exact ⟨t, List.mem_singleton.mp h⟩

theorem find?_fields_eq_none {key : String} (h : key ∉ knownKeys) :
    fields.find? (fun f => f.1.accepts key) = none := by
  simp only [knownKeys, List.mem_cons, List.not_mem_nil, or_false, not_or] at h
  simp [fields, Label.accepts, h]

/-- A property of all members of a receipt. -/
theorem forall_mem_members {P : String × Json → Prop} (hstatus : ∀ s, P ("status", .string s))
    (hcontract : ∀ s, P ("scoreAddress", .string s)) (hhash : ∀ s, P ("txHash", .string s))
    (hothers : ∀ m ∈ receipt.others, P m) : ∀ m ∈ receipt.members, P m := by
  intro m hm
  rcases List.mem_cons.mp hm with rfl | hm
  · exact hstatus _
  rcases List.mem_append.mp hm with hm | hm
  · rcases List.mem_append.mp hm with hm | hm
    · obtain ⟨s, rfl⟩ := mem_textMember hm
      exact hcontract s
    · obtain ⟨s, rfl⟩ := mem_textMember hm
      exact hhash s
  · exact hothers m hm

namespace IsWritable

theorem isReadable (h : receipt.IsWritable) :
    ∀ m ∈ receipt.members, IsReadable fields true 2 126 m := by
  have hfield : ∀ (label : Label) (shape : Shape),
      fields.find? (fun f => f.1.accepts label.name) = some (label, shape) →
        ∀ s, ReadsBack 2 126 shape (.string s) →
          IsReadable fields true 2 126 (label.name, .string s) :=
    fun _ _ hfind _ hback => .field hfind hback
  refine forall_mem_members
    (fun s => hfield ⟨"status", [], true⟩ _ rfl s ((readsBack_text s).mono (by decide)))
    (fun s => hfield ⟨"scoreAddress", [], false⟩ _ rfl s (readsBack_optional_text s))
    (fun s => hfield ⟨"txHash", [], false⟩ _ rfl s (readsBack_optional_text s)) fun m hm => ?_
  have hback := readsBack_anything (rereads (h.fits m hm)) (h.isCanonical m hm).canonical_eq
  exact .other rfl (find?_fields_eq_none (h.isUnknown m hm)) (hback.mono (by decide))

theorem pairwise_ne (h : receipt.IsWritable) :
    receipt.members.Pairwise fun n k => n.1 ≠ k.1 := by
  have hone : ∀ key s, (textMember key s).Pairwise fun n k => n.1 ≠ k.1 := by
    intro key s
    cases s with
    | none => exact List.Pairwise.nil
    | some t => exact List.pairwise_singleton _ _
  have hothers : receipt.others.Pairwise fun n k => n.1 ≠ k.1 := h.isSorted.imp fun hlt => hlt.ne
  have hknown : ∀ key ∈ knownKeys, ∀ m ∈ receipt.others, key ≠ m.1 := by
    rintro key hkey m hm rfl
    exact h.isUnknown m hm hkey
  refine List.pairwise_cons.mpr ⟨?_, List.pairwise_append.mpr
    ⟨List.pairwise_append.mpr ⟨hone _ _, hone _ _, ?_⟩, hothers, ?_⟩⟩
  · simp only [List.forall_mem_append]
    refine ⟨⟨fun m hm => ?_, fun m hm => ?_⟩, hknown "status" (by decide)⟩
    · obtain ⟨s, rfl⟩ := mem_textMember hm
      exact of_decide_eq_false rfl
    · obtain ⟨s, rfl⟩ := mem_textMember hm
      exact of_decide_eq_false rfl
  · intro n hn k hk
    obtain ⟨s, rfl⟩ := mem_textMember hn
    obtain ⟨t, rfl⟩ := mem_textMember hk
    exact of_decide_eq_false rfl
  · simp only [List.forall_mem_append]
    constructor
    · intro n hn
      obtain ⟨s, rfl⟩ := mem_textMember hn
      exact hknown "scoreAddress" (by decide)
    · intro n hn
      obtain ⟨s, rfl⟩ := mem_textMember hn
      exact hknown "txHash" (by decide)

/-- The members are read as they are written. -/
theorem readAs_pretty (h : receipt.IsWritable) :
    readAs shape receipt.toJson.pretty = .ok (.object receipt.members) := by
  let rest := textMember "scoreAddress" receipt.contract ++ textMember "txHash" receipt.hash ++
    receipt.others
  have hcomplete : Shape.checkComplete fields
      (("status", .string receipt.status) :: rest).reverse = .ok () := by
    have hstatus : Members.get? (rest.reverse ++ [("status", .string receipt.status)])
        "status" ≠ none := by
      rw [Members.get?_append, Members.get?_cons, if_pos rfl]
      cases Members.get? rest.reverse "status" <;> simp
    rw [List.reverse_cons]
    refine if_pos ?_
    simp only [fields, List.all_cons, List.all_nil, Bool.and_true, Bool.not_true, Bool.false_or,
      Bool.not_false, Bool.true_or, Option.isSome_iff_ne_none]
    exact hstatus
  refine Json.readAs_pretty (readsBack_openRecord h.isReadable h.pairwise_ne hcomplete) ?_
  have hlength := length_le_length_prettyChars ("status", .string receipt.status) rest 0
  change rest.length ≤ receipt.toJson.pretty.toList.length at hlength
  change rest.length + 2 + 2 ≤ 2 * receipt.toJson.pretty.toList.length + 2 + 64
  omega

theorem get?_textMember (key : String) (s : Option String) (k : String) :
    Members.get? (textMember key s).reverse k =
      if k = key then s.map Json.string else none := by
  cases s with
  | none => split_ifs <;> rfl
  | some t => exact Members.get?_cons _ _ _

/-- The value of a key that is known. -/
theorem get?_ofList_members (h : receipt.IsWritable) {key : String} (hkey : key ∈ knownKeys) :
    Members.get? (Members.ofList receipt.members) key =
      ((if key = "txHash" then receipt.hash.map Json.string else none).or
        (if key = "scoreAddress" then receipt.contract.map Json.string else none)).or
          (if key = "status" then some (.string receipt.status) else none) := by
  have hothers : Members.get? receipt.others.reverse key = none := by
    refine Members.get?_eq_none fun m hm heq => ?_
    exact h.isUnknown m (List.mem_reverse.mp hm) (heq ▸ hkey)
  rw [Members.get?_ofList, members, List.reverse_cons, List.reverse_append, List.reverse_append,
    Members.get?_append, Members.get?_append, Members.get?_append, hothers, get?_textMember,
    get?_textMember, Members.get?_cons, Option.none_or]
  rfl

theorem without_ofList_members (h : receipt.IsWritable) :
    Members.without knownKeys (Members.ofList receipt.members) = receipt.others := by
  have htext : ∀ key ∈ knownKeys, ∀ s, Members.without knownKeys (textMember key s) = [] := by
    intro key hkey s
    cases s with
    | none => rfl
    | some t => exact (Members.without_cons _ _).trans (if_pos hkey)
  have hothers : Members.without knownKeys receipt.others = receipt.others := by
    refine List.filter_eq_self.mpr fun m hm => ?_
    simpa using h.isUnknown m hm
  have hsorted : Members.ofList receipt.others = receipt.others := by
    have hobject : IsCanonical (.object receipt.others) := .object h.isSorted h.isCanonical
    rw [← canonicalMembers_eq_ofList fun m hm => (h.isCanonical m hm).canonical_eq]
    exact Json.object.inj hobject.canonical_eq
  have hstatus : "status" ∈ knownKeys := by decide
  rw [Members.without_ofList, members, Members.without_cons, if_pos hstatus, Members.without_append,
    Members.without_append, htext _ (by decide), htext _ (by decide), hothers, List.nil_append,
    List.nil_append, hsorted]

theorem canonical_object_members (h : receipt.IsWritable) :
    (Json.object receipt.members).canonical = .object (Members.ofList receipt.members) := by
  rw [canonical, canonicalMembers_eq_ofList]
  exact forall_mem_members (fun _ => rfl) (fun _ => rfl) (fun _ => rfl)
    fun m hm => (h.isCanonical m hm).canonical_eq

/-- A receipt is read from its text as it was. -/
theorem read_pretty (h : receipt.IsWritable) :
    Receipt.read receipt.toJson.pretty = .ok receipt := by
  have hoptional : ∀ s : Option String, Submission.IsOptionalText (s.map Json.string) s := by
    intro s
    cases s with
    | none => exact .absent
    | some t => exact .text t
  have hholds : Submission.HoldsReceipt (.object (Members.ofList receipt.members)) receipt := by
    refine .intro ?_ ?_ ?_ h.without_ofList_members.symm
    · rw [h.get?_ofList_members (by decide)]
      rfl
    · rw [h.get?_ofList_members (by decide)]
      simpa using hoptional receipt.contract
    · rw [h.get?_ofList_members (by decide)]
      simpa using hoptional receipt.hash
  rw [Receipt.read, h.readAs_pretty, Except.ok_bind, h.canonical_object_members,
    Submission.ofJson?_eq_some_iff.mpr hholds]
  rfl

end IsWritable

/-! ### Receipts that nodes send -/

/-- The receipt in a value that was read from a text can be written. -/
theorem isWritable_of_holdsReceipt {result : Json} (hcanonical : IsCanonical result)
    (hfits : Fits Number.IsToken 126 result) (h : Submission.HoldsReceipt result receipt) :
    receipt.IsWritable := by
  cases h with
  | @intro members _ _ _ _ hothers =>
    cases hcanonical with
    | object hsorted hvalues =>
      cases hfits with
      | object hfits =>
        have hmem : ∀ m ∈ receipt.others, m ∈ members ∧ m.1 ∉ knownKeys := by
          intro m hm
          rw [hothers] at hm
          obtain ⟨hm, hkey⟩ := List.mem_filter.mp hm
          exact ⟨hm, by simpa [knownKeys] using hkey⟩
        constructor
        · rw [hothers]
          exact hsorted.without _
        · exact fun m hm => (hmem m hm).2
        · exact fun m hm => hvalues m (hmem m hm).1
        · exact fun m hm => (hfits m (hmem m hm).1).succ

end Receipt

/-- A receipt that confirms a transaction can be written and read again. -/
theorem Submission.Confirms.isWritable {hash : String} {reply : Except Node.Error Json}
    {receipt : Receipt} (h : Confirms hash reply receipt)
    (hparsed : ∀ value, reply = .ok value → value.IsParsed) : receipt.IsWritable := by
  cases h.decides with
  | confirmed hresult hholds _ =>
    obtain ⟨hcanonical, hfits⟩ := (hparsed _ rfl).member hresult
    exact Receipt.isWritable_of_holdsReceipt hcanonical hfits hholds

end ScoreDeploy
