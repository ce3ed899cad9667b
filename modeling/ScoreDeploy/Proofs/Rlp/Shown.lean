import ScoreDeploy.Rlp.Text
import ScoreDeploy.Proofs.Bytes.Hex
import ScoreDeploy.Proofs.Except
import ScoreDeploy.Proofs.Rlp.Nesting
import ScoreDeploy.Proofs.Text.Trimming

/-!
# Objects shown and read back

A text that gives the bytes of an encoding in hexadecimal is shown as the JSON value of the object,
and `ofJson?` reads the object back from that value. `IsHexText` says which texts give which bytes:
since `x` is no digit, a mark in front cannot be taken for digits, and a text gives one byte string
at most.
-/

namespace ScoreDeploy.Rlp

variable {text : String} {digits : List Char} {bytes : Bytes} {object : Rlp}

/-! ### Values read back -/

/-- The bytes that a text behind the mark `0x` gives. -/
def bytesShown? (text : String) : Option Bytes :=
  match text.toList with
  | '0' :: 'x' :: digits => (Hex.decodeChars digits).toOption
  | _ => none

mutual

/-- The object that a value shows. -/
def ofJson? : Json → Option Rlp
  | .string text => (bytesShown? text).map .bytes
  | .array items => (itemsOfJson? items).map .list
  | _ => none

/-- The objects that the values show. -/
def itemsOfJson? : List Json → Option (List Rlp)
  | [] => some []
  | value :: rest => do return (← ofJson? value) :: (← itemsOfJson? rest)

end

theorem itemsToJson_eq (done : List Json) (items : List Rlp) :
    itemsToJson done items = done.reverse ++ items.map toJson := by
  induction items generalizing done with
  | nil => rw [itemsToJson, List.map_nil, List.append_nil]
  | cons item rest ih =>
    rw [itemsToJson, ih, List.reverse_cons, List.append_assoc, List.singleton_append, List.map_cons]

theorem toJson_list (items : List Rlp) : toJson (.list items) = .array (items.map toJson) := by
  rw [toJson, itemsToJson_eq, List.reverse_nil, List.nil_append]

theorem bytesShown?_encode (payload : Bytes) :
    bytesShown? ("0x" ++ Hex.encode payload) = some payload := by
  have hdigits : Hex.decodeChars (Hex.encodeChars payload) = .ok payload := by
    have hencode := Hex.decode_encode payload
    rwa [Hex.decode, Hex.encode, String.toList_ofList] at hencode
  have htext : ("0x" ++ Hex.encode payload).toList = '0' :: 'x' :: Hex.encodeChars payload := by
    simp [Hex.encode]
  rw [bytesShown?, htext]
  simp only [hdigits]
  rfl

theorem itemsOfJson?_map {items : List Rlp} (h : ∀ item ∈ items, ofJson? item.toJson = some item) :
    itemsOfJson? (items.map toJson) = some items := by
  induction items with
  | nil => rfl
  | cons item rest ih =>
    obtain ⟨hitem, hrest⟩ := List.forall_mem_cons.mp h
    rw [List.map_cons, itemsOfJson?, hitem, ih hrest]
    rfl

theorem ofJson?_toJson (object : Rlp) : ofJson? object.toJson = some object := by
  induction object with
  | bytes payload => rw [toJson, ofJson?, bytesShown?_encode, Option.map_some]
  | list items ih => rw [toJson_list, ofJson?, itemsOfJson?_map ih, Option.map_some]

theorem toJson_injective : Function.Injective toJson := fun a b h => by
  have hread := ofJson?_toJson a
  rw [h, ofJson?_toJson] at hread
  exact (Option.some.inj hread).symm

/-! ### Texts that give bytes -/

/-- The text gives the bytes by two hexadecimal digits for each, of either case. Blanks may stand
around them, and the mark `0x` in front. -/
def IsHexText (text : String) (bytes : Bytes) : Prop :=
  ∃ front mark digits back, text.toList = front ++ (mark ++ digits) ++ back ∧
    (∀ c ∈ front, Text.isBlank c = true) ∧ (∀ c ∈ back, Text.isBlank c = true) ∧
    (mark = [] ∨ mark = ['0', 'x']) ∧ digits.map Char.toLower = Hex.encodeChars bytes

theorem isBlank_of_code : ∀ k < 128, ∀ n < 16, (Char.ofNat k).toLower = Nat.digitChar n →
    Text.isBlank (Char.ofNat k) = false ∧ Char.ofNat k ≠ 'x' := by
  decide +kernel

/-- A digit is neither a blank nor the second character of the mark. -/
theorem isBlank_of_toLower {c : Char} {n : Nat} (hn : n < 16) (h : c.toLower = Nat.digitChar n) :
    Text.isBlank c = false ∧ c ≠ 'x' := by
  have hlt : c.toNat < 128 := by
    by_contra hle
    have hdigit := Hex.toNat_digitChar_lt n hn
    rw [← h, Hex.toLower_of_le (Nat.not_lt.mp hle)] at hdigit
    exact hle hdigit
  have hcode := isBlank_of_code c.toNat hlt n hn
  rw [Char.ofNat_toNat] at hcode
  exact hcode h

theorem withoutMark_digits (h : digits.map Char.toLower = Hex.encodeChars bytes) :
    withoutMark digits = digits := by
  unfold withoutMark
  split
  · next rest =>
    obtain ⟨n, hn, hx⟩ := Hex.exists_digitChar_of_mem h (c := 'x') (by simp)
    exact absurd rfl (isBlank_of_toLower hn hx).2
  · rfl

theorem eq_mark_append (cs : List Char) :
    ∃ mark, (mark = [] ∨ mark = ['0', 'x']) ∧ cs = mark ++ withoutMark cs := by
  unfold withoutMark
  split
  · exact ⟨['0', 'x'], .inr rfl, rfl⟩
  · exact ⟨[], .inl rfl, rfl⟩

/-- The characters that are left of the text are read as the bytes just if it gives them. -/
theorem decodeChars_eq_ok_iff_isHexText :
    Hex.decodeChars (withoutMark (Text.trimBlanks text.toList)) = .ok bytes ↔
      IsHexText text bytes := by
  rw [Hex.decodeChars_eq_ok_iff]
  constructor
  · intro h
    obtain ⟨⟨front, back, htext, hfront, hback⟩, -, -⟩ := Text.isTrimmed_trimBlanks text.toList
    obtain ⟨mark, hmark, hcore⟩ := eq_mark_append (Text.trimBlanks text.toList)
    exact ⟨front, mark, _, back, hcore ▸ htext, hfront, hback, hmark, h⟩
  · rintro ⟨front, mark, digits, back, htext, hfront, hback, hmark, hdigits⟩
    have hsolid : ∀ c ∈ mark ++ digits, Text.isBlank c = false := by
      intro c hc
      rcases List.mem_append.mp hc with hc | hc
      · rcases hmark with rfl | rfl
        · cases hc
        · rcases List.mem_pair.mp hc with rfl | rfl <;> decide
      · obtain ⟨n, hn, hlower⟩ := Hex.exists_digitChar_of_mem hdigits hc
        exact (isBlank_of_toLower hn hlower).1
    have htrimmed : Text.IsTrimmed text.toList (mark ++ digits) :=
      ⟨⟨front, back, htext, hfront, hback⟩, fun c hc => hsolid c (List.mem_of_mem_head? hc),
        fun c hc => hsolid c (List.mem_of_mem_getLast? hc)⟩
    have hleft : withoutMark (mark ++ digits) = digits := by
      rcases hmark with rfl | rfl
      · exact withoutMark_digits hdigits
      · rfl
    rw [← htrimmed.eq_trimBlanks, hleft, hdigits]

/-- A text is read as an object just if it gives the bytes of an encoding of it. -/
theorem ofText_eq_ok_iff :
    ofText text = .ok object ↔ ∃ bytes, IsHexText text bytes ∧ decode bytes = .ok object := by
  rw [ofText, Except.bind_eq_ok_iff]
  simp only [Except.mapError_eq_ok_iff, decodeChars_eq_ok_iff_isHexText]

theorem IsHexText.unique {bytes' : Bytes} (h : IsHexText text bytes) (h' : IsHexText text bytes') :
    bytes = bytes' :=
  Except.ok.inj
    ((decodeChars_eq_ok_iff_isHexText.mpr h).symm.trans (decodeChars_eq_ok_iff_isHexText.mpr h'))

theorem shown_eq_ok_iff {value : Json} :
    (ofText text).map toJson = .ok value ↔
      ∃ bytes object, IsHexText text bytes ∧ decode bytes = .ok object ∧ value = object.toJson := by
  rw [Except.map_eq_ok_iff]
  constructor
  · rintro ⟨object, hread, rfl⟩
    obtain ⟨bytes, htext, hdecode⟩ := ofText_eq_ok_iff.mp hread
    exact ⟨bytes, object, htext, hdecode, rfl⟩
  · rintro ⟨bytes, object, htext, hdecode, rfl⟩
    exact ⟨object, ofText_eq_ok_iff.mpr ⟨bytes, htext, hdecode⟩, rfl⟩

/-- A text is shown as a value just if it gives the bytes of an encoding of an object that looks
like this, and it gives those bytes only. The object can be read back from the value. Whatever is
written for an object of at most 1024 lists inside one another is shown as this object, however its
digits are spelled, and texts that are shown alike are read as one object. -/
theorem ofText_shows (text other : String) (value : Json) (object : Rlp) :
    ((ofText text).map toJson = .ok value ↔
        ∃ bytes object, IsHexText text bytes ∧ decode bytes = .ok object ∧
          value = object.toJson) ∧
      (∀ bytes bytes', IsHexText text bytes → IsHexText text bytes' → bytes = bytes') ∧
      ((∀ payload, toJson (.bytes payload) = .string ("0x" ++ Hex.encode payload)) ∧
        (∀ items, toJson (.list items) = .array (items.map toJson)) ∧
        ofJson? object.toJson = some object ∧ Function.Injective toJson) ∧
      (object.depth ≤ 1024 → object.encode.length < 2 ^ 64 → IsHexText text object.encode →
        (ofText text).map toJson = .ok object.toJson) ∧
      ((ofText text).map toJson = .ok value → (ofText other).map toJson = .ok value →
        ∃ object, ofText text = .ok object ∧ ofText other = .ok object) := by
  refine ⟨shown_eq_ok_iff, fun bytes bytes' h h' => h.unique h',
    ⟨fun payload => by rw [toJson], toJson_list, ofJson?_toJson object, toJson_injective⟩, ?_, ?_⟩
  · intro hdepth hlength htext
    have hdecode : decode object.encode = .ok object :=
      (decode_encode_eq_ok_iff (hlength.trans_le (by decide))).mpr hdepth
    exact shown_eq_ok_iff.mpr ⟨_, object, htext, hdecode, rfl⟩
  · intro htext hother
    obtain ⟨object, hread, rfl⟩ := Except.map_eq_ok_iff.mp htext
    obtain ⟨object', hread', hjson⟩ := Except.map_eq_ok_iff.mp hother
    obtain rfl := toJson_injective hjson
    exact ⟨object', hread, hread'⟩

/-- The list of `cat` and of a list of `dog`, in large digits behind a mark and between blanks, and
in small digits alone. -/
theorem ofText_shows_cat :
    let cat : Rlp := .bytes [0x63, 0x61, 0x74]
    let dog : Rlp := .bytes [0x64, 0x6f, 0x67]
    let value : Json := .array [.string "0x636174", .array [.string "0x646f67"]]
    IsHexText "\t0xC983636174C483646F67 \n" (encode (.list [cat, .list [dog]])) ∧
      IsHexText "c983636174c483646f67" (encode (.list [cat, .list [dog]])) ∧
      (ofText "\t0xC983636174C483646F67 \n").map toJson = .ok value ∧
      ∃ object, ofText "\t0xC983636174C483646F67 \n" = .ok object ∧
        ofText "c983636174c483646f67" = .ok object := by
  intro cat dog value
  have hlarge : IsHexText "\t0xC983636174C483646F67 \n" (encode (.list [cat, .list [dog]])) :=
    ⟨['\t'], ['0', 'x'], "C983636174C483646F67".toList, [' ', '\n'], by decide +kernel,
      List.all_eq_true.mp (by decide), List.all_eq_true.mp (by decide), .inr rfl,
      by decide +kernel⟩
  have hsmall : IsHexText "c983636174c483646f67" (encode (.list [cat, .list [dog]])) :=
    ⟨[], [], "c983636174c483646f67".toList, [], by decide +kernel, List.forall_mem_nil _,
      List.forall_mem_nil _, .inl rfl, by decide +kernel⟩
  have hcat : cat.toJson = .string "0x636174" := by
    rw [toJson]
    exact congrArg Json.string (by decide +kernel)
  have hdog : dog.toJson = .string "0x646f67" := by
    rw [toJson]
    exact congrArg Json.string (by decide +kernel)
  have hvalue : (Rlp.list [cat, .list [dog]]).toJson = value := by
    rw [toJson_list, List.map_cons, hcat, List.map_singleton, toJson_list, List.map_singleton, hdog]
  obtain ⟨-, -, -, hshown, halike⟩ := ofText_shows "\t0xC983636174C483646F67 \n"
    "c983636174c483646f67" value (.list [cat, .list [dog]])
  have hother := (ofText_shows "c983636174c483646f67" "" value (.list [cat, .list [dog]])).2.2.2.1
    (by decide) (by decide) hsmall
  rw [hvalue] at hshown hother
  have hfirst := hshown (by decide) (by decide) hlarge
  exact ⟨hlarge, hsmall, hfirst, halike hfirst hother⟩

end ScoreDeploy.Rlp
