import ScoreDeploy.Keystore.Cipher

/-!
# Counter mode

The stream that counter mode adds to a text is as long as the text if the key has sixteen bytes, so
adding it twice gives the text back. A key that is derived by PBKDF2 has the length that was asked
for.
-/

namespace ScoreDeploy

/-! ### Counter mode -/

namespace Bytes

theorem length_xor (a b : Bytes) : (xor a b).length = min a.length b.length :=
  List.length_zipWith

/-- Adding a stream twice changes nothing. -/
theorem xor_xor {text stream : Bytes} (h : text.length ≤ stream.length) :
    xor (xor text stream) stream = text := by
  induction text generalizing stream with
  | nil => rfl
  | cons b text ih =>
    cases stream with
    | nil => exact absurd h (by simp)
    | cons k stream =>
      have hb : b ^^^ k ^^^ k = b := by rw [UInt8.xor_assoc, UInt8.xor_self, UInt8.xor_zero]
      have hrest : xor (xor text stream) stream = text :=
        ih (Nat.le_of_succ_le_succ h)
      change (b ^^^ k ^^^ k) :: xor (xor text stream) stream = b :: text
      rw [hb, hrest]

end Bytes

namespace Aes

variable {key state : Bytes}

theorem length_nextKey (h : key.length = 16) (constant : UInt8) :
    (nextKey key constant).length = 16 := by
  simp [nextKey, Bytes.length_xor, h]

theorem length_of_mem_laterKeys (h : key.length = 16) {constants : List UInt8} :
    ∀ k ∈ laterKeys key constants, k.length = 16 := by
  induction constants generalizing key with
  | nil => exact List.forall_mem_nil _
  | cons constant rest ih =>
    have hnext := length_nextKey h constant
    exact List.forall_mem_cons.mpr ⟨hnext, ih hnext⟩

theorem length_shiftRows (state : Bytes) : (shiftRows state).length = 16 := by
  simp [shiftRows]

theorem length_mixColumn {column : Bytes} (h : column.length = 4) :
    (mixColumn column).length = 4 := by
  match column, h with
  | [p, q, r, s], _ => rfl

theorem length_mixColumns (h : state.length = 16) : (mixColumns state).length = 16 := by
  have hcolumn : ∀ i ∈ List.range 4, (mixColumn ((state.drop (4 * i)).take 4)).length = 4 := by
    intro i hi
    have hlt := List.mem_range.mp hi
    refine length_mixColumn ?_
    rw [List.length_take, List.length_drop, h]
    omega
  rw [mixColumns, List.length_flatMap, List.map_congr_left hcolumn]
  rfl

/-- A state keeps its length through all rounds. -/
theorem length_rounds {keys : List Bytes} (hkeys : ∀ k ∈ keys, k.length = 16)
    (h : state.length = 16) : (rounds keys state).length = 16 := by
  induction keys generalizing state with
  | nil => exact h
  | cons key rest ih =>
    obtain ⟨hkey, hrest⟩ := List.forall_mem_cons.mp hkeys
    cases rest with
    | nil => rw [rounds, Bytes.length_xor, length_shiftRows, hkey, Nat.min_self]
    | cons next rest =>
      rw [rounds]
      · refine ih hrest ?_
        rw [Bytes.length_xor, length_mixColumns (length_shiftRows _), hkey, Nat.min_self]
      · exact List.cons_ne_nil _ _

theorem length_encryptBlock (hkey : key.length = 16) (h : state.length = 16) :
    (encryptBlock key state).length = 16 := by
  refine length_rounds (length_of_mem_laterKeys hkey) ?_
  rw [Bytes.length_xor, h, hkey, Nat.min_self]

theorem length_keystream (hkey : key.length = 16) (blocks counter : Nat) :
    (keystream key blocks counter).length = 16 * blocks := by
  induction blocks generalizing counter with
  | zero => rfl
  | succ blocks ih =>
    rw [keystream, List.length_append, ih,
      length_encryptBlock hkey (Bytes.length_ofNatBE 16 counter)]
    omega

theorem ctr_ctr (hkey : key.length = 16) (iv text : Bytes) :
    ctr key iv (ctr key iv text) = text := by
  have hstream : text.length ≤
      (keystream key ((text.length + 15) / 16) (Bytes.toNatBE iv)).length := by
    rw [length_keystream hkey]
    omega
  have hlength : (ctr key iv text).length = text.length := by
    rw [ctr, Bytes.length_xor, Nat.min_eq_left hstream]
  rw [ctr, hlength, ctr, Bytes.xor_xor hstream]

end Aes

/-! ### Derived keys -/

namespace Sha256

theorem length_pbkdf2 (password salt : Bytes) (iterations length : Nat) :
    (pbkdf2 password salt iterations length).length = length := by
  have hblocks : ∀ (key : MacKey) (count : Nat), ((List.range count).flatMap fun i =>
      pbkdf2Block key salt iterations (i + 1)).length = 32 * count := by
    intro key count
    have hblock : ∀ i ∈ List.range count,
        (pbkdf2Block key salt iterations (i + 1)).length = 32 := fun i _ => rfl
    rw [List.length_flatMap, List.map_congr_left hblock, List.map_const', List.length_range,
      List.sum_replicate_nat, Nat.mul_comm]
  rw [pbkdf2, List.length_take, hblocks]
  omega

end Sha256

end ScoreDeploy
