import ScoreDeploy.Bytes.Hex

/-!
# Hexadecimal text read back

The digits of a byte string are characters of one byte each, and pairs of them are read as the bytes
that they were written for. Nothing else is read, except for the case of letters: `decode_eq_ok_iff`
says which texts are read as given bytes.
-/

namespace ScoreDeploy.Hex

/-- The byte of a digit. -/
def digitByte (n : Nat) : UInt8 :=
  UInt8.ofNat (Nat.digitChar n).toNat

/-- The two bytes of the digits of each byte. -/
def digitBytes (bs : Bytes) : Bytes :=
  bs.flatMap fun b => [digitByte (b.toNat / 16), digitByte (b.toNat % 16)]

theorem digitBytes_cons (b : UInt8) (bs : Bytes) :
    digitBytes (b :: bs) =
      digitByte (b.toNat / 16) :: digitByte (b.toNat % 16) :: digitBytes bs :=
  rfl

theorem length_digitBytes (bs : Bytes) : (digitBytes bs).length = 2 * bs.length := by
  induction bs with
  | nil => rfl
  | cons b bs ih =>
    rw [digitBytes_cons, List.length_cons, List.length_cons, ih, List.length_cons]
    omega

theorem utf8EncodeChar_digitChar : ∀ n < 16,
    String.utf8EncodeChar (Nat.digitChar n) = [digitByte n] := by
  decide

theorem nibble?_digitByte : ∀ n < 16, nibble? (digitByte n) = some n := by
  decide

theorem utf8Chars_encodeChars (bs : Bytes) :
    Bytes.utf8Chars (encodeChars bs) = digitBytes bs := by
  induction bs with
  | nil => rfl
  | cons b bs ih =>
    have hb : b.toNat < 256 := b.toNat_lt
    have hhigh := utf8EncodeChar_digitChar (b.toNat / 16) (by omega)
    have hlow := utf8EncodeChar_digitChar (b.toNat % 16) (by omega)
    rw [digitBytes_cons, ← ih, encodeChars, List.flatMap_cons, Bytes.utf8Chars,
      List.flatMap_append, encodeByte, List.flatMap_cons, List.flatMap_cons, hhigh, hlow]
    rfl

theorem decodePairs_digitBytes (decoded : Bytes) (position : Nat) (bs : Bytes) :
    decodePairs decoded position (digitBytes bs) = .ok (decoded.reverse ++ bs) := by
  induction bs generalizing decoded position with
  | nil => rw [List.append_nil]; rfl
  | cons b bs ih =>
    have hb : b.toNat < 256 := b.toNat_lt
    have hhigh := nibble?_digitByte (b.toNat / 16) (by omega)
    have hlow := nibble?_digitByte (b.toNat % 16) (by omega)
    have hbyte : UInt8.ofNat (b.toNat / 16 * 16 + b.toNat % 16) = b := by
      rw [Nat.div_add_mod', UInt8.ofNat_toNat]
    rw [digitBytes_cons, decodePairs]
    simp only [hhigh, hlow, hbyte]
    rw [ih, List.reverse_cons, List.append_assoc, List.singleton_append]

theorem decode_encode (bs : Bytes) : decode (encode bs) = .ok bs := by
  have heven : ¬(digitBytes bs).length % 2 = 1 := by
    rw [length_digitBytes]
    omega
  rw [decode, encode, String.toList_ofList, decodeChars, utf8Chars_encodeChars, if_neg heven,
    decodePairs_digitBytes]
  rfl

/-! ### Digits of either case -/

/-- The character is a digit of either case with that value, and takes one byte. -/
def IsDigit (c : Char) (n : Nat) : Prop :=
  n < 16 ∧ ∃ b, String.utf8EncodeChar c = [b] ∧ nibble? b = some n

-- All characters of one byte are tried.
theorem nibble?_of_code : ∀ k < 128,
    (nibble? (UInt8.ofNat k) = none ∧ ∀ n < 16, (Char.ofNat k).toLower ≠ Nat.digitChar n) ∨
      ∃ n < 16, nibble? (UInt8.ofNat k) = some n ∧ (Char.ofNat k).toLower = Nat.digitChar n := by
  decide +kernel

theorem nibble?_of_le : ∀ k < 256, 128 ≤ k → nibble? (UInt8.ofNat k) = none := by
  decide +kernel

theorem utf8EncodeChar_of_lt {c : Char} (h : c.toNat < 128) :
    String.utf8EncodeChar c = [UInt8.ofNat c.toNat] :=
  if_pos (Nat.le_of_lt_succ h)

theorem utf8EncodeChar_of_le {c : Char} (h : 128 ≤ c.toNat) :
    ∃ k bytes, 128 ≤ k ∧ k < 256 ∧ String.utf8EncodeChar c = UInt8.ofNat k :: bytes := by
  unfold Char.toNat at h
  unfold String.utf8EncodeChar
  dsimp only
  rw [if_neg (by omega)]
  split
  · exact ⟨_, _, by omega, by omega, rfl⟩
  · split
    · exact ⟨_, _, by omega, by omega, rfl⟩
    · exact ⟨_, _, by omega, by omega, rfl⟩

theorem toLower_of_le {c : Char} (h : 128 ≤ c.toNat) : c.toLower = c := by
  refine dif_neg ?_
  rintro ⟨-, hle⟩
  have hle : c.toNat ≤ 90 := UInt32.le_iff_toNat_le.mp hle
  omega

theorem toNat_digitChar_lt : ∀ n < 16, (Nat.digitChar n).toNat < 128 := by
  decide

theorem digitChar_inj : ∀ m < 16, ∀ n < 16, Nat.digitChar m = Nat.digitChar n → m = n := by
  decide

/-- A character is a digit, and tells so in its only byte, or its first byte is none. -/
theorem isDigit_or (c : Char) :
    (∃ n, IsDigit c n ∧ c.toLower = Nat.digitChar n) ∨
      (∀ n < 16, c.toLower ≠ Nat.digitChar n) ∧
        ∃ b bytes, String.utf8EncodeChar c = b :: bytes ∧ nibble? b = none := by
  by_cases hc : c.toNat < 128
  · have hbyte := utf8EncodeChar_of_lt hc
    have hcode := nibble?_of_code c.toNat hc
    rw [Char.ofNat_toNat] at hcode
    rcases hcode with ⟨hnone, hno⟩ | ⟨n, hn, hsome, hlower⟩
    · exact .inr ⟨hno, _, [], hbyte, hnone⟩
    · exact .inl ⟨n, ⟨hn, _, hbyte, hsome⟩, hlower⟩
  · have hc : 128 ≤ c.toNat := Nat.le_of_not_lt hc
    obtain ⟨k, bytes, hle, hlt, hbytes⟩ := utf8EncodeChar_of_le hc
    refine .inr ⟨fun n hn h => ?_, _, bytes, hbytes, nibble?_of_le k hlt hle⟩
    have hdigit := toNat_digitChar_lt n hn
    rw [← h, toLower_of_le hc] at hdigit
    omega

theorem IsDigit.of_toLower {c : Char} {n : Nat} (hn : n < 16) (h : c.toLower = Nat.digitChar n) :
    IsDigit c n := by
  rcases isDigit_or c with ⟨m, hm, hlower⟩ | ⟨hno, -⟩
  · obtain rfl : m = n := digitChar_inj m hm.1 n hn (hlower.symm.trans h)
    exact hm
  · exact absurd h (hno n hn)

theorem decodePairs_ne_ok {b : UInt8} (hb : nibble? b = none) (decoded bytes bs : Bytes)
    (position : Nat) : decodePairs decoded position (b :: bytes) ≠ .ok bs := by
  cases bytes with
  | nil => simp [decodePairs]
  | cons low rest => simp [decodePairs, hb]

theorem decodePairs_pair {c d : Char} {h l : Nat} (hc : IsDigit c h) (hd : IsDigit d l)
    (decoded : Bytes) (position : Nat) (cs : List Char) :
    decodePairs decoded position (Bytes.utf8Chars (c :: d :: cs)) =
      decodePairs (UInt8.ofNat (h * 16 + l) :: decoded) (position + 2) (Bytes.utf8Chars cs) := by
  obtain ⟨-, b, hb, hhigh⟩ := hc
  obtain ⟨-, b', hb', hlow⟩ := hd
  rw [Bytes.utf8Chars, List.flatMap_cons, List.flatMap_cons, hb, hb']
  show decodePairs decoded position (b :: b' :: Bytes.utf8Chars cs) = _
  rw [decodePairs]
  simp only [hhigh, hlow]

theorem encodeByte_pair {h l : Nat} (hh : h < 16) (hl : l < 16) :
    encodeByte (UInt8.ofNat (h * 16 + l)) = [Nat.digitChar h, Nat.digitChar l] := by
  have hlt : h * 16 + l < 256 := by omega
  have hbyte : (UInt8.ofNat (h * 16 + l)).toNat = h * 16 + l := UInt8.toNat_ofNat_of_lt hlt
  rw [encodeByte, hbyte, show (h * 16 + l) / 16 = h by omega, show (h * 16 + l) % 16 = l by omega]

/-- What is read from pairs of characters is what their small letters are written for. -/
theorem map_toLower_of_decodePairs {bs : Bytes} : ∀ {cs : List Char} {decoded : Bytes}
    {position : Nat}, decodePairs decoded position (Bytes.utf8Chars cs) = .ok bs →
      ∃ tail, bs = decoded.reverse ++ tail ∧ cs.map Char.toLower = encodeChars tail
  | [], decoded, position, h => by
    obtain rfl : decoded.reverse = bs := Except.ok.inj h
    exact ⟨[], (List.append_nil _).symm, rfl⟩
  | [c], decoded, position, h => by
    rcases isDigit_or c with ⟨n, ⟨-, b, hb, -⟩, -⟩ | ⟨-, b, bytes, hb, hnone⟩
    · rw [Bytes.utf8Chars, List.flatMap_singleton, hb] at h
      cases h
    · rw [Bytes.utf8Chars, List.flatMap_singleton, hb] at h
      exact absurd h (decodePairs_ne_ok hnone _ _ _ _)
  | c :: d :: cs, decoded, position, h => by
    rcases isDigit_or c with ⟨n, hc, hlower⟩ | ⟨-, b, bytes, hb, hnone⟩
    · rcases isDigit_or d with ⟨m, hd, hlower'⟩ | ⟨-, b', bytes, hb', hnone⟩
      · rw [decodePairs_pair hc hd] at h
        obtain ⟨tail, hbs, htail⟩ := map_toLower_of_decodePairs h
        refine ⟨UInt8.ofNat (n * 16 + m) :: tail, ?_, ?_⟩
        · rw [hbs, List.reverse_cons, List.append_assoc, List.singleton_append]
        · rw [List.map_cons, List.map_cons, hlower, hlower', htail, encodeChars, encodeChars,
            List.flatMap_cons, encodeByte_pair hc.1 hd.1]
          rfl
      · obtain ⟨-, b, hb, hhigh⟩ := hc
        rw [Bytes.utf8Chars, List.flatMap_cons, List.flatMap_cons, hb, hb'] at h
        simp [decodePairs, hhigh, hnone] at h
    · rw [Bytes.utf8Chars, List.flatMap_cons, hb] at h
      exact absurd h (decodePairs_ne_ok hnone _ _ _ _)

theorem decodePairs_of_map_toLower {bs : Bytes} (decoded : Bytes) (position : Nat)
    {cs : List Char} (h : cs.map Char.toLower = encodeChars bs) :
    decodePairs decoded position (Bytes.utf8Chars cs) = .ok (decoded.reverse ++ bs) ∧
      (Bytes.utf8Chars cs).length = 2 * bs.length := by
  induction bs generalizing cs decoded position with
  | nil =>
    obtain rfl : cs = [] := List.map_eq_nil_iff.mp h
    rw [List.append_nil]
    exact ⟨rfl, rfl⟩
  | cons b bs ih =>
    have hb : b.toNat < 256 := b.toNat_lt
    obtain ⟨c, _, rfl, hhigh, h⟩ := List.map_eq_cons_iff.mp h
    obtain ⟨d, cs, rfl, hlow, h⟩ := List.map_eq_cons_iff.mp h
    have hc := IsDigit.of_toLower (by omega) hhigh
    have hd := IsDigit.of_toLower (by omega) hlow
    have hbyte : UInt8.ofNat (b.toNat / 16 * 16 + b.toNat % 16) = b := by
      rw [Nat.div_add_mod', UInt8.ofNat_toNat]
    obtain ⟨hpairs, hlength⟩ := ih (b :: decoded) (position + 2) h
    constructor
    · rw [decodePairs_pair hc hd, hbyte, hpairs, List.reverse_cons, List.append_assoc,
        List.singleton_append]
    · obtain ⟨-, _, hone, -⟩ := hc
      obtain ⟨-, _, hone', -⟩ := hd
      rw [Bytes.utf8Chars, List.flatMap_cons, List.flatMap_cons, hone, hone']
      rw [Bytes.utf8Chars] at hlength
      simp [hlength]
      omega

theorem decodeChars_eq_ok_iff {cs : List Char} {bs : Bytes} :
    decodeChars cs = .ok bs ↔ cs.map Char.toLower = encodeChars bs := by
  rw [decodeChars]
  constructor
  · intro h
    split at h
    · cases h
    · obtain ⟨tail, rfl, htail⟩ := map_toLower_of_decodePairs h
      exact htail
  · intro h
    obtain ⟨hpairs, hlength⟩ := decodePairs_of_map_toLower [] 0 h
    rw [if_neg (by omega)]
    exact hpairs

/-- A text is read as those bytes if its small letters are what they are written as. -/
theorem decode_eq_ok_iff {text : String} {bs : Bytes} :
    decode text = .ok bs ↔ text.toList.map Char.toLower = encodeChars bs :=
  decodeChars_eq_ok_iff

theorem exists_digitChar_of_mem_encodeChars {bs : Bytes} {c : Char} (h : c ∈ encodeChars bs) :
    ∃ n < 16, c = Nat.digitChar n := by
  obtain ⟨b, -, hb⟩ := List.mem_flatMap.mp h
  simp only [encodeByte, List.mem_cons, List.not_mem_nil, or_false] at hb
  rcases hb with hc | hc
  · exact ⟨b.toNat / 16, by have := b.toNat_lt; omega, hc⟩
  · exact ⟨b.toNat % 16, Nat.mod_lt _ (by decide), hc⟩

/-- The digits of a text in hexadecimal, as small letters, are those of numbers below 16. -/
theorem exists_digitChar_of_mem {cs : List Char} {bs : Bytes}
    (h : cs.map Char.toLower = encodeChars bs) {c : Char} (hc : c ∈ cs) :
    ∃ n < 16, c.toLower = Nat.digitChar n := by
  have hlower : c.toLower ∈ encodeChars bs := h ▸ List.mem_map_of_mem hc
  exact exists_digitChar_of_mem_encodeChars hlower

end ScoreDeploy.Hex
