import ScoreDeploy.Proofs.HexNumeral
import ScoreDeploy.Proofs.Submission.Params

/-!
# Params tell the transaction

What a node is asked to execute can be read back. A member that may be left out stands for a default
where it is missing, and none of the members that are there can be mistaken for it, so that two
transactions, each under its limit, have the same params only if they are the same.
-/

namespace ScoreDeploy

open Json

namespace Transaction

/-! ### A reader -/

/-- The text under a key. -/
def text? (members : Members) (key : String) : Option String := do
  (← Members.get? members key).string?

/-- The number of 64 bits that the text under a key is a numeral for. -/
def word? (members : Members) (key : String) : Option UInt64 := do
  HexNumeral.readWord? (← text? members key)

/-- The quantity that the text under a key is a numeral for. -/
def quantity? (members : Members) (key : String) : Option Quantity := do
  (HexNumeral.read (← text? members key)).toOption

/-- The bytes whose hexadecimal form a key has, behind the mark `0x`. -/
def bytes? (members : Members) (key : String) : Option Bytes := do
  let digits ← HexNumeral.afterMark? (← text? members key).toList
  (Hex.decodeChars digits).toOption

/-- What is read under a key, if the key is there; a value that cannot be read is no missing one. -/
def optional? {α : Type} (read? : Members → String → Option α) (members : Members) (key : String) :
    Option (Option α) :=
  match Members.get? members key with
  | none => some none
  | some _ => (read? members key).map some

/-- The members of the object under a key. -/
def members? (members : Members) (key : String) : Option Members :=
  match Members.get? members key with
  | some (.object inner) => some inner
  | _ => none

/-- The payload of that kind. -/
def Payload.read? (kind : String) (data : Members) : Option Payload :=
  match kind with
  | "call" => do return .call (← text? data "method") (← optional? members? data "params")
  | "deploy" => do
    return .deploy (← text? data "contentType") (← bytes? data "content")
      (← optional? members? data "params")
  | _ => none

/-- The payload that is there under the name of its kind. -/
def payload? (params : Params) (key : String) : Option Payload := do
  Payload.read? (← text? params key) (← members? params "data")

/-- The transaction and the step limit that the params tell. -/
def read? (params : Params) : Option (Transaction × Option UInt64) := do
  let tx : Transaction := {
    sender := ← text? params "from"
    recipient := ← text? params "to"
    network := ← word? params "nid"
    value := (← optional? quantity? params "value").getD .zero
    nonce := ← optional? quantity? params "nonce"
    timestamp := (← word? params "timestamp").toInt64
    payload := ← optional? payload? params "dataType" }
  return (tx, ← optional? word? params "stepLimit")

/-! ### What each member says -/

/-- The member is a numeral for the number, and is missing if there is no number. -/
inductive IsNumeralMember : Option Json → Option Nat → Prop
  | missing : IsNumeralMember none none
  | numeral {text : String} {n : Nat} : HexNumeral.IsNumeral text n →
      IsNumeralMember (some (.string text)) (some n)

/-- The members that the payload is described by, both missing if there is none. -/
inductive IsPayloadMembers : Option Json → Option Json → Option Payload → Prop
  | missing : IsPayloadMembers none none none
  | call {data : Members} {method : String} {params : Option Params} :
      Members.get? data "method" = some (.string method) →
      Members.get? data "params" = params.map .object →
      IsPayloadMembers (some (.string "call")) (some (.object data)) (some (.call method params))
  | deploy {data : Members} {contentType text : String} {digits : List Char} {content : Bytes}
      {params : Option Params} :
      Members.get? data "contentType" = some (.string contentType) →
      Members.get? data "content" = some (.string text) →
      text.toList = '0' :: 'x' :: digits → Hex.decodeChars digits = .ok content →
      Members.get? data "params" = params.map .object →
      IsPayloadMembers (some (.string "deploy")) (some (.object data))
        (some (.deploy contentType content params))

/-- The members say this transaction and this limit. The timestamp is given by its residue, and no
money is said by nothing. -/
structure Says (params : Params) (tx : Transaction) (limit : Option UInt64) : Prop where
  sender : Members.get? params "from" = some (.string tx.sender)
  recipient : Members.get? params "to" = some (.string tx.recipient)
  network : IsNumeralMember (Members.get? params "nid") tx.network.toNat
  value : IsNumeralMember (Members.get? params "value")
    (if tx.value.toNat = 0 then none else tx.value.toNat)
  nonce : IsNumeralMember (Members.get? params "nonce") (tx.nonce.map (·.toNat))
  timestamp : ∃ n : Nat, IsNumeralMember (Members.get? params "timestamp") n ∧
    (n : Int) = tx.timestamp.toInt % 2 ^ 64
  limit : IsNumeralMember (Members.get? params "stepLimit") (limit.map (·.toNat))
  payload :
    IsPayloadMembers (Members.get? params "dataType") (Members.get? params "data") tx.payload

/-! ### Reading what is said -/

section

variable {members : Members} {key : String} {α : Type}

theorem text?_eq_some {text : String} (h : Members.get? members key = some (.string text)) :
    text? members key = some text := by
  rw [text?, h]
  rfl

theorem word?_eq_some {word : UInt64}
    (h : IsNumeralMember (Members.get? members key) word.toNat) :
    word? members key = some word := by
  generalize hwritten : Members.get? members key = written at h
  cases h with
  | numeral hnumeral =>
    obtain ⟨other, hread, hsame⟩ :=
      HexNumeral.exists_readWord?_iff.mpr ⟨.inl hnumeral, word.toNat_lt⟩
    rw [word?, text?_eq_some hwritten, ← UInt64.toNat_inj.mp hsame]
    exact hread

theorem quantity?_eq_some {quantity : Quantity}
    (h : IsNumeralMember (Members.get? members key) quantity.toNat) :
    quantity? members key = some quantity := by
  generalize hwritten : Members.get? members key = written at h
  cases h with
  | numeral hnumeral =>
    obtain ⟨other, hread, hsame⟩ :=
      HexNumeral.exists_read_iff.mpr ⟨.inl hnumeral, quantity.toNat_lt⟩
    rw [quantity?, text?_eq_some hwritten, ← Quantity.ext hsame]
    exact congrArg Except.toOption hread

/-- What may be missing is read as missing where it is. -/
theorem optional?_eq_some {read? : Members → String → Option α} {toNat : α → Nat} {x : Option α}
    (hread : ∀ a, IsNumeralMember (Members.get? members key) (some (toNat a)) →
      read? members key = some a)
    (h : IsNumeralMember (Members.get? members key) (x.map toNat)) :
    optional? read? members key = some x := by
  cases x with
  | none =>
    generalize hwritten : Members.get? members key = written at h
    cases h with
    | missing => rw [optional?, hwritten]
  | some a =>
    have ha : read? members key = some a := hread a h
    generalize hwritten : Members.get? members key = written at h
    cases h with
    | numeral _ => rw [optional?, hwritten, ha]; rfl

theorem optional?_members?_eq_some {x : Option Members}
    (h : Members.get? members key = x.map .object) : optional? members? members key = some x := by
  cases x with
  | none => rw [optional?, h]; rfl
  | some inner => rw [optional?, members?, h]; rfl

end

theorem optional?_payload?_eq_some {params : Params} {payload : Option Payload}
    (h : IsPayloadMembers (Members.get? params "dataType") (Members.get? params "data") payload) :
    optional? payload? params "dataType" = some payload := by
  generalize hkind : Members.get? params "dataType" = kind at h
  generalize hdata : Members.get? params "data" = data at h
  cases h with
  | missing => rw [optional?, hkind]
  | call hmethod hparams =>
    rw [optional?, hkind]
    simp [payload?, members?, text?_eq_some hkind, hdata, Payload.read?, text?_eq_some hmethod,
      optional?_members?_eq_some hparams]
  | deploy hcontentType htext hdigits hcontent hparams =>
    rw [optional?, hkind]
    simp [payload?, members?, text?_eq_some hkind, hdata, Payload.read?,
      text?_eq_some hcontentType, bytes?, text?_eq_some htext, hdigits, HexNumeral.afterMark?,
      hcontent, Except.toOption, optional?_members?_eq_some hparams]

/-- The 64 bits of a timestamp are those of its residue. -/
theorem toNat_toUInt64_eq_emod (t : Int64) : (t.toUInt64.toNat : Int) = t.toInt % 2 ^ 64 := by
  have hlt : t.toBitVec.toNat < 2 ^ 64 := t.toBitVec.isLt
  have hbits : t.toInt = if 2 * t.toBitVec.toNat < 2 ^ 64 then (t.toBitVec.toNat : Int)
      else t.toBitVec.toNat - 2 ^ 64 := t.toBitVec.toInt_eq_toNat_cond
  rw [show t.toUInt64.toNat = t.toBitVec.toNat from rfl, hbits]
  split_ifs <;> omega

/-- What is said is read, however the numerals are written. -/
theorem Says.read?_eq_some {params : Params} {tx : Transaction} {limit : Option UInt64}
    (h : Says params tx limit) : read? params = some (tx, limit) := by
  obtain ⟨n, hwritten, hresidue⟩ := h.timestamp
  have htimestamp : word? params "timestamp" = some tx.timestamp.toUInt64 := by
    have hbits := toNat_toUInt64_eq_emod tx.timestamp
    obtain rfl : n = tx.timestamp.toUInt64.toNat := by omega
    exact word?_eq_some hwritten
  have hvalue : optional? quantity? params "value" =
      some (if tx.value.toNat = 0 then none else some tx.value) := by
    have hmember : IsNumeralMember (Members.get? params "value")
        ((if tx.value.toNat = 0 then none else some tx.value).map (·.toNat)) := by
      rw [apply_ite (Option.map _)]
      exact h.value
    exact optional?_eq_some (fun _ => quantity?_eq_some) hmember
  have hdefault : (if tx.value.toNat = 0 then none else some tx.value).getD .zero = tx.value := by
    split_ifs with hzero
    · exact Quantity.ext hzero.symm
    · rfl
  have hnonce : optional? quantity? params "nonce" = some tx.nonce :=
    optional?_eq_some (fun _ => quantity?_eq_some) h.nonce
  have hlimit : optional? word? params "stepLimit" = some limit :=
    optional?_eq_some (fun _ => word?_eq_some) h.limit
  simp only [read?, text?_eq_some h.sender, text?_eq_some h.recipient, word?_eq_some h.network,
    hvalue, hnonce, htimestamp, optional?_payload?_eq_some h.payload, hlimit, Option.bind_eq_bind,
    Option.bind_some, hdefault, Int64.toInt64_toUInt64]
  rfl

/-! ### What is written -/

theorem isNumeralMember_write (n : Nat) :
    IsNumeralMember (some (.string (HexNumeral.write n))) (some n) :=
  .numeral (HexNumeral.isNumeral_write n)

theorem isNumeralMember_map_write {α : Type} (toNat : α → Nat) (x : Option α) :
    IsNumeralMember (x.map fun a => .string (HexNumeral.write (toNat a))) (x.map toNat) := by
  cases x with
  | none => exact .missing
  | some a => exact isNumeralMember_write (toNat a)

theorem isPayloadMembers_data (payload : Option Payload) :
    IsPayloadMembers (payload.map fun payload => .string payload.kind)
      (payload.map fun payload => .object payload.data) payload := by
  match payload with
  | none => exact .missing
  | some (.call method params) =>
    refine .call ?_ ?_
    · exact (Members.get?_cons _ _ _).trans (if_pos rfl)
    · exact (Members.get?_cons _ _ _).trans (Payload.get?_paramsMember params)
  | some (.deploy contentType content params) =>
    have hdigits : ("0x" ++ Hex.encode content).toList =
        '0' :: 'x' :: (Hex.encode content).toList := by simp
    refine .deploy ?_ ?_ hdigits (Hex.decode_encode content) ?_
    · simp [Payload.data, Members.get?_cons]
    · simp [Payload.data, Members.get?_cons]
    · simp [Payload.data, Members.get?_cons, Payload.get?_paramsMember]

/-- Every member comes from its own part of the transaction. -/
theorem says_params (tx : Transaction) (limit : Option UInt64) :
    Says (tx.params limit) tx limit := by
  have hget := get?_params tx limit
  simp only [get?_payloadMembers, get?_nonceMembers, get?_valueMembers, get?_limitMembers,
    get?_fixedMembers] at hget
  constructor
  · simp [hget]
  · simp [hget]
  · simpa [hget] using isNumeralMember_write tx.network.toNat
  · by_cases hzero : tx.value.toNat = 0
    · simpa [hget, hzero] using IsNumeralMember.missing
    · simpa [hget, hzero] using isNumeralMember_write tx.value.toNat
  · simpa [hget] using isNumeralMember_map_write (·.toNat) tx.nonce
  · refine ⟨tx.timestamp.toUInt64.toNat, ?_, toNat_toUInt64_eq_emod tx.timestamp⟩
    simpa [hget] using isNumeralMember_write tx.timestamp.toUInt64.toNat
  · simpa [hget] using isNumeralMember_map_write (·.toNat) limit
  · simpa [hget] using isPayloadMembers_data tx.payload

/-- The params of a transaction under a limit are read back as this transaction and this limit, from
members that say them: no money, no nonce, no limit and no payload are said by a member that is
missing, a timestamp by its residue, and missing parameters differ from an empty object. So the
params of two transactions are the same only if the transactions are, and the limits. -/
theorem params_determines (tx : Transaction) (limit : Option UInt64) :
    read? (tx.params limit) = some (tx, limit) ∧
    Says (tx.params limit) tx limit ∧
    ∀ (other : Transaction) (otherLimit : Option UInt64),
      tx.params limit = other.params otherLimit ↔ tx = other ∧ limit = otherLimit := by
  refine ⟨(says_params tx limit).read?_eq_some, says_params tx limit, fun other otherLimit => ?_⟩
  constructor
  · intro h
    have hread := (says_params other otherLimit).read?_eq_some
    rw [← h, (says_params tx limit).read?_eq_some] at hread
    exact Prod.mk.inj (Option.some.inj hread)
  · rintro ⟨rfl, rfl⟩
    rfl

/-- A moment before 1970. -/
example : Members.get? ((empty "hx00" "cx00" 1 (-1)).params none) "timestamp" =
    some (.string "0xffffffffffffffff") := by
  rfl

end Transaction

end ScoreDeploy
