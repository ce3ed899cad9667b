import ScoreDeploy.HexNumeral
import ScoreDeploy.Proofs.Except
import ScoreDeploy.Proofs.Text.Numeral

/-!
# What is read as a hexadecimal numeral

Both readers take the same texts for numbers, each up to its own bound: `0x` and at least one digit,
and also texts with a plus sign between them, which are no numerals. The written text is read back,
and no other text for the same number is as short.
-/

namespace ScoreDeploy.HexNumeral

variable {text : String} {cs : List Char} {limit n : Nat}

/-- The text is `0x` and at least one digit of either case, and the digits stand for the number. -/
def IsNumeral (text : String) (n : Nat) : Prop :=
  ∃ digits, text.toList = '0' :: 'x' :: digits ∧ digits ≠ [] ∧ Numeral.Denotes 16 digits n

/-- The text would be a numeral for the number without the plus sign behind its `0x`. -/
def IsSigned (text : String) (n : Nat) : Prop :=
  ∃ digits, text.toList = '0' :: 'x' :: '+' :: digits ∧ digits ≠ [] ∧ Numeral.Denotes 16 digits n

/-! ### Reading -/

theorem afterMark?_eq_some_iff {digits : List Char} :
    afterMark? cs = some digits ↔ cs = '0' :: 'x' :: digits := by
  unfold afterMark?
  split
  · simp
  · next hne =>
    refine iff_of_false (by simp) ?_
    rintro rfl
    exact hne _ rfl

theorem readBelow_eq_ok_iff (hlimit : 0 < limit) :
    readBelow limit text = .ok n ↔ (IsNumeral text n ∨ IsSigned text n) ∧ n < limit := by
  have hread : readBelow limit text = .ok n ↔
      ∃ rest, text.toList = '0' :: 'x' :: rest ∧ Numeral.read 16 limit rest = .ok n := by
    rw [readBelow]
    cases hmark : afterMark? text.toList with
    | none =>
      refine iff_of_false (by simp) ?_
      rintro ⟨rest, hrest, -⟩
      rw [afterMark?_eq_some_iff.mpr hrest] at hmark
      cases hmark
    | some rest =>
      rw [afterMark?_eq_some_iff] at hmark
      dsimp only
      rw [Except.mapError_eq_ok_iff, hmark]
      simp
  rw [hread]
  simp only [Numeral.read_eq_ok_iff (show 0 < 16 by decide) (Nat.le_refl 16) hlimit]
  constructor
  · rintro ⟨_, htext, sign, digits, rfl, rfl | rfl, hne, hdenotes, hlt⟩
    · exact ⟨.inl ⟨digits, htext, hne, hdenotes⟩, hlt⟩
    · exact ⟨.inr ⟨digits, htext, hne, hdenotes⟩, hlt⟩
  · rintro ⟨⟨digits, htext, hne, hdenotes⟩ | ⟨digits, htext, hne, hdenotes⟩, hlt⟩
    · exact ⟨digits, htext, [], digits, rfl, .inl rfl, hne, hdenotes, hlt⟩
    · exact ⟨'+' :: digits, htext, ['+'], digits, rfl, .inr rfl, hne, hdenotes, hlt⟩

theorem read_eq_ok_iff_readBelow {quantity : Quantity} :
    read text = .ok quantity ↔ readBelow Quantity.limit text = .ok quantity.toNat := by
  rw [read]
  cases hread : readBelow Quantity.limit text with
  | error e => simp
  | ok n =>
    have hlt : n < Quantity.limit := ((readBelow_eq_ok_iff (by decide)).mp hread).2
    have hnumber := Quantity.ofNat?_toNat ⟨n, hlt⟩
    simp [hnumber, Quantity.ext_iff]

theorem exists_read_iff :
    (∃ quantity, read text = .ok quantity ∧ quantity.toNat = n) ↔
      (IsNumeral text n ∨ IsSigned text n) ∧ n < Quantity.limit := by
  simp only [read_eq_ok_iff_readBelow, readBelow_eq_ok_iff (show 0 < Quantity.limit by decide)]
  constructor
  · rintro ⟨quantity, h, rfl⟩
    exact h
  · intro h
    exact ⟨⟨n, h.2⟩, h, rfl⟩

theorem exists_readWord?_iff :
    (∃ word, readWord? text = some word ∧ word.toNat = n) ↔
      (IsNumeral text n ∨ IsSigned text n) ∧ n < UInt64.size := by
  rw [← readBelow_eq_ok_iff (by decide), readWord?]
  cases hread : readBelow UInt64.size text with
  | error e => simp [Except.toOption]
  | ok m =>
    have hlt := ((readBelow_eq_ok_iff (by decide)).mp hread).2
    simp [Except.toOption, UInt64.toNat_ofNat_of_lt' hlt]

/-! ### Writing -/

theorem isNumeral_write (n : Nat) : IsNumeral (write n) n := by
  have hdenotes := Numeral.denotes_toDigits (show 1 < 16 by decide) (Nat.le_refl 16) n
  refine ⟨Nat.toDigits 16 n, ?_, Nat.toDigits_ne_nil, hdenotes⟩
  simp [write, Numeral.hex]

theorem read_write (quantity : Quantity) : read (write quantity.toNat) = .ok quantity := by
  obtain ⟨other, hread, hsame⟩ :=
    exists_read_iff.mpr ⟨.inl (isNumeral_write quantity.toNat), quantity.toNat_lt⟩
  rwa [Quantity.ext hsame] at hread

theorem length_write (n : Nat) : (write n).length = (Nat.toDigits 16 n).length + 2 := by
  rw [← String.length_toList]
  simp [write, Numeral.hex]

theorem IsNumeral.length_write_le (h : IsNumeral text n) : (write n).length ≤ text.length := by
  obtain ⟨digits, htext, hne, hdenotes⟩ := h
  have hle := hdenotes.length_toDigits_le (by decide) hne
  rw [length_write, ← String.length_toList, htext]
  simp
  omega

theorem IsNumeral.map_toLower_eq (h : IsNumeral text n) (hlength : text.length = (write n).length) :
    text.toList.map Char.toLower = (write n).toList := by
  obtain ⟨digits, htext, hne, hdenotes⟩ := h
  have hdigits : digits.length = (Nat.toDigits 16 n).length := by
    rw [length_write, ← String.length_toList, htext] at hlength
    simpa using hlength
  rw [htext, List.map_cons, List.map_cons, hdenotes.map_toLower_eq (by decide) (by decide) hdigits]
  simp [write, Numeral.hex]

theorem IsSigned.length_write_lt (h : IsSigned text n) : (write n).length < text.length := by
  obtain ⟨digits, htext, hne, hdenotes⟩ := h
  have hle := hdenotes.length_toDigits_le (by decide) hne
  rw [length_write, ← String.length_toList, htext]
  simp
  omega

/-! ### Both readers -/

theorem IsNumeral.not_isSigned {m : Nat} (h : IsNumeral text m) : ¬IsSigned text n := by
  rintro ⟨digits, hsigned, -⟩
  obtain ⟨all, htext, -, hdenotes⟩ := h
  obtain rfl : all = '+' :: digits :=
    (List.cons.inj (List.cons.inj (htext.symm.trans hsigned)).2).2
  exact hdenotes.not_plus (Nat.le_refl 16)

/-- A reader takes nothing but numerals where no text with a sign is within its bound. -/
theorem takes_numerals_iff {takes : Nat → Prop}
    (h : ∀ n, takes n ↔ (IsNumeral text n ∨ IsSigned text n) ∧ n < limit) :
    (∀ n, takes n ↔ IsNumeral text n ∧ n < limit) ↔ ∀ n < limit, ¬IsSigned text n := by
  constructor
  · intro htakes n hn hsigned
    obtain ⟨hnumeral, -⟩ := (htakes n).mp ((h n).mpr ⟨.inr hsigned, hn⟩)
    exact hnumeral.not_isSigned hsigned
  · intro hnone n
    rw [h, and_congr_left_iff]
    intro hn
    exact or_iff_left (hnone n hn)

/-- The readers take the same texts for the same numbers, each below its own bound: the numerals,
and beside them nothing but numerals with a plus sign, so that a reader goes wrong only on these.
The written text of a quantity is read back, and it is the shortest text that is read as this
quantity, and the only one of this length in small letters. -/
theorem reads_numeral_or_signed (text : String) (n : Nat) (quantity : Quantity) :
    ((∃ other, read text = .ok other ∧ other.toNat = n) ↔
      (IsNumeral text n ∨ IsSigned text n) ∧ n < 2 ^ 128) ∧
    ((∃ word, readWord? text = some word ∧ word.toNat = n) ↔
      (IsNumeral text n ∨ IsSigned text n) ∧ n < 2 ^ 64) ∧
    ((∀ n, (∃ other, read text = .ok other ∧ other.toNat = n) ↔ IsNumeral text n ∧ n < 2 ^ 128) ↔
      ∀ n < 2 ^ 128, ¬IsSigned text n) ∧
    ((∀ n, (∃ word, readWord? text = some word ∧ word.toNat = n) ↔
        IsNumeral text n ∧ n < 2 ^ 64) ↔
      ∀ n < 2 ^ 64, ¬IsSigned text n) ∧
    (n < 2 ^ 64 → ((∃ other, read text = .ok other ∧ other.toNat = n) ↔
      ∃ word, readWord? text = some word ∧ word.toNat = n)) ∧
    IsNumeral (write quantity.toNat) quantity.toNat ∧
    read (write quantity.toNat) = .ok quantity ∧
    (write quantity.toNat).toList.map Char.toLower = (write quantity.toNat).toList ∧
    (read text = .ok quantity → (write quantity.toNat).length ≤ text.length ∧
      (text.length = (write quantity.toNat).length →
        text.toList.map Char.toLower = (write quantity.toNat).toList)) := by
  have hwritten := isNumeral_write quantity.toNat
  refine ⟨exists_read_iff, exists_readWord?_iff, takes_numerals_iff fun n => exists_read_iff,
    takes_numerals_iff fun n => exists_readWord?_iff, ?_, hwritten, read_write quantity,
    hwritten.map_toLower_eq rfl, ?_⟩
  · intro hn
    rw [exists_read_iff, exists_readWord?_iff]
    refine and_congr_right fun _ => iff_of_true ?_ hn
    calc n < 2 ^ 64 := hn
      _ < Quantity.limit := by decide
  · intro hread
    obtain ⟨hnumeral | hsigned, -⟩ := exists_read_iff.mp ⟨quantity, hread, rfl⟩
    · exact ⟨hnumeral.length_write_le, hnumeral.map_toLower_eq⟩
    · have hlt := hsigned.length_write_lt
      exact ⟨hlt.le, fun hlength => absurd hlength hlt.ne'⟩

theorem isNumeral_padded : IsNumeral "0x00Ff" 255 :=
  ⟨['0', '0', 'F', 'f'], rfl, by decide, [0, 0, 15, 15], ⟨by decide, by decide⟩, by decide⟩

/-- Zeros in front and letters of either case make no difference to either reader, and the text that
is written instead is shorter. -/
theorem reads_numeral_padded :
    (∃ quantity, read "0x00Ff" = .ok quantity ∧ quantity.toNat = 255) ∧
      (∃ word, readWord? "0x00Ff" = some word ∧ word.toNat = 255) ∧
      (write 255).length ≤ "0x00Ff".length := by
  obtain ⟨htakes, -, -, -, hagree, -, -, -, hshort⟩ :=
    reads_numeral_or_signed "0x00Ff" 255 ⟨255, by decide⟩
  have hread := htakes.mpr ⟨.inl isNumeral_padded, by decide⟩
  refine ⟨hread, (hagree (by decide)).mp hread, ?_⟩
  obtain ⟨other, hother, hvalue⟩ := hread
  obtain rfl : other = ⟨255, by decide⟩ := Quantity.ext hvalue
  exact (hshort hother).1

/-- Both readers take a text with a sign for a number, although it is no numeral. -/
theorem reads_signed :
    (∃ quantity, read "0x+1" = .ok quantity ∧ quantity.toNat = 1) ∧
      (∃ word, readWord? "0x+1" = some word ∧ word.toNat = 1) ∧
      ∀ n, ¬IsNumeral "0x+1" n := by
  have hone : Numeral.Denotes 16 ['1'] 1 := ⟨[1], ⟨by decide, by decide⟩, by decide⟩
  have hsigned : IsSigned "0x+1" 1 := ⟨['1'], rfl, by decide, hone⟩
  refine ⟨exists_read_iff.mpr ⟨.inr hsigned, by decide⟩,
    exists_readWord?_iff.mpr ⟨.inr hsigned, by decide⟩, ?_⟩
  intro n hnumeral
  exact hnumeral.not_isSigned hsigned

end ScoreDeploy.HexNumeral
