import ScoreDeploy.Rlp.Decode
import ScoreDeploy.Proofs.Bytes.Numeral
import Mathlib.Data.List.Forall2

/-!
# The grammar of recursive length prefix

`Encodes bs object` tells, without any reader or writer, that the bytes are an encoding of the
object. One object has many encodings: a short payload may stand behind a long header, and a length
may have zeros in front. `depth` counts how far the lists of an object are nested.
-/

namespace ScoreDeploy.Rlp

/-- Induction over objects, where every item of a list may be assumed to have the property. -/
@[elab_as_elim, induction_eliminator]
theorem induction {motive : Rlp → Prop} (bytes : ∀ payload, motive (.bytes payload))
    (list : ∀ items, (∀ item ∈ items, motive item) → motive (.list items)) (object : Rlp) :
    motive object :=
  @Rlp.rec motive (fun items => ∀ item ∈ items, motive item) bytes list
    (List.forall_mem_nil motive)
    (fun _ _ hitem hrest => List.forall_mem_cons.mpr ⟨hitem, hrest⟩) object

/-! ### Nesting -/

mutual

/-- The greatest number of lists that lie inside one another, the object itself included. -/
def depth : Rlp → Nat
  | .bytes _ => 0
  | .list items => depthItems items + 1

/-- The greatest depth of an item. -/
def depthItems : List Rlp → Nat
  | [] => 0
  | item :: rest => max (depth item) (depthItems rest)

end

theorem depthItems_le_iff {items : List Rlp} {d : Nat} :
    depthItems items ≤ d ↔ ∀ item ∈ items, item.depth ≤ d := by
  induction items with
  | nil => simp [depthItems]
  | cons item rest ih => rw [depthItems, Nat.max_le, ih, List.forall_mem_cons]

theorem depth_list_le_succ_iff {items : List Rlp} {d : Nat} :
    (Rlp.list items).depth ≤ d + 1 ↔ ∀ item ∈ items, item.depth ≤ d := by
  rw [depth, Nat.add_le_add_iff_right, depthItems_le_iff]

/-! ### Encodings -/

/-- The bytes are a header of a payload of that length. `kind` is the header of an empty payload:
`0x80` for byte strings and `0xc0` for lists. -/
inductive Announces (kind : UInt8) (length : Nat) : Bytes → Prop
  /-- One byte gives a length of at most 55. -/
  | short : length ≤ 55 → Announces kind length [kind + UInt8.ofNat length]
  /-- One byte gives the number of those that give the length; zeros may stand in front of it. -/
  | long {digits : Bytes} : 1 ≤ digits.length → digits.length ≤ 8 →
      Bytes.toNatBE digits = length →
      Announces kind length ((kind + 55 + UInt8.ofNat digits.length) :: digits)

/-- The bytes are an encoding of the object. -/
inductive Encodes : Bytes → Rlp → Prop
  /-- A byte below `0x80` encodes the string that consists of it. -/
  | single {b : UInt8} : b < 0x80 → Encodes [b] (.bytes [b])
  /-- A header and as many bytes as it says encode the string of these bytes. -/
  | bytes {head payload : Bytes} : Announces 0x80 payload.length head →
      Encodes (head ++ payload) (.bytes payload)
  /-- A header and encodings of the items one after another, which take as many bytes as it says,
  encode the list of the items. -/
  | list {head : Bytes} {parts : List Bytes} {items : List Rlp} :
      Announces 0xc0 parts.flatten.length head → List.Forall₂ Encodes parts items →
      Encodes (head ++ parts.flatten) (.list items)

variable {kind : UInt8} {length : Nat} {head bs : Bytes} {object : Rlp}

theorem Announces.length_pos (h : Announces kind length head) : 0 < head.length := by
  cases h <;> simp

theorem Encodes.length_pos (h : Encodes bs object) : 0 < bs.length := by
  cases h with
  | single => simp
  | bytes hhead => exact (Nat.add_pos_left hhead.length_pos _).trans_eq List.length_append.symm
  | list hhead => exact (Nat.add_pos_left hhead.length_pos _).trans_eq List.length_append.symm

/-- A header never gives a length of more than eight bytes. -/
theorem Announces.length_lt (h : Announces kind length head) : length < 256 ^ 8 := by
  cases h with
  | short hshort => exact hshort.trans_lt (by decide)
  | @long digits _ hwidth hdigits =>
    calc length = Bytes.toNatBE digits := hdigits.symm
      _ < 256 ^ digits.length := Bytes.toNatBE_lt digits
      _ ≤ 256 ^ 8 := Nat.pow_le_pow_right (by decide) hwidth

/-! ### Bytes of headers -/

/-- A header byte stands the length behind its kind. -/
theorem toNat_add_ofNat {n : Nat} (h : kind.toNat + n < 256) :
    (kind + UInt8.ofNat n).toNat = kind.toNat + n := by
  rw [UInt8.toNat_add, UInt8.toNat_ofNat', Nat.add_mod_mod, Nat.mod_eq_of_lt h]

theorem eq_add_ofNat {b : UInt8} {n : Nat} (h : b.toNat = kind.toNat + n) :
    b = kind + UInt8.ofNat n :=
  UInt8.toNat_inj.mp (h.trans (toNat_add_ofNat (h ▸ b.toNat_lt)).symm)

end ScoreDeploy.Rlp
