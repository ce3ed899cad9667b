import ScoreDeploy.Proofs.Rlp.Exactness

/-!
# The shortest encoding

An object has many encodings, and `encode` gives the shortest of them. Every other one is
`Wasteful`: somewhere in it a header is longer than it has to be. A shorter item may let the lists
around it do with shorter headers too, and never asks for longer ones.
-/

namespace ScoreDeploy.Rlp

variable {kind : UInt8} {length n : Nat} {head bs : Bytes} {object : Rlp}

/-! ### Headers -/

theorem toNatBE_lengthBytes (h : n < 256 ^ 8) : Bytes.toNatBE (lengthBytes n) = n := by
  rw [lengthBytes, Bytes.toNatBE_dropWhile_zero, Bytes.toNatBE_ofNatBE h]

theorem isShortest_lengthBytes (n : Nat) : Bytes.IsShortest (lengthBytes n) :=
  Bytes.isShortest_dropWhile_zero _

theorem length_lengthBytes_le (n : Nat) : (lengthBytes n).length ≤ 8 :=
  (List.dropWhile_suffix _).length_le.trans_eq (Bytes.length_ofNatBE 8 n)

theorem header_of_le (h : n ≤ 55) : header kind n = [kind + UInt8.ofNat n] :=
  if_pos h

theorem header_of_lt (h : 55 < n) :
    header kind n = (kind + 55 + UInt8.ofNat (lengthBytes n).length) :: lengthBytes n :=
  if_neg (Nat.not_le.mpr h)

theorem announces_header (kind : UInt8) (h : n < 256 ^ 8) : Announces kind n (header kind n) := by
  by_cases hshort : n ≤ 55
  · rw [header_of_le hshort]
    exact .short hshort
  · rw [header_of_lt (Nat.not_le.mp hshort)]
    refine .long (List.length_pos_iff.mpr fun hnil => ?_) (length_lengthBytes_le n)
      (toNatBE_lengthBytes h)
    have hzero := toNatBE_lengthBytes h
    rw [hnil] at hzero
    exact hshort (hzero ▸ Nat.zero_le 55)

/-- The header of a payload that is no longer is no longer. -/
theorem length_header_le (h : Announces kind length head) (hn : n ≤ length) :
    (header kind n).length ≤ head.length := by
  by_cases hshort : n ≤ 55
  · rw [header_of_le hshort]
    exact h.length_pos
  · have hlt := hn.trans_lt h.length_lt
    rw [header_of_lt (Nat.not_le.mp hshort)]
    cases h with
    | short hlength => exact absurd (hn.trans hlength) hshort
    | long _ _ hdigits =>
      refine Nat.succ_le_succ ((isShortest_lengthBytes n).length_le ?_)
      rw [toNatBE_lengthBytes hlt, hdigits]
      exact hn

/-- A header is the one that is written, or gives a small length in a long way, or gives its length
with a zero in front. -/
theorem Announces.eq_header_or (h : Announces kind length head) :
    head = header kind length ∨ (length ≤ 55 ∧ ∃ b digits, digits ≠ [] ∧ head = b :: digits) ∨
      ∃ b digits, head = b :: 0 :: digits := by
  cases h with
  | short hshort => exact .inl (header_of_le hshort).symm
  | @long digits hone height hdigits =>
    by_cases hshort : length ≤ 55
    · exact .inr (.inl ⟨hshort, _, digits, List.length_pos_iff.mp hone, rfl⟩)
    · by_cases hzero : digits.head? = some 0
      · obtain ⟨rest, rfl⟩ := List.head?_eq_some_iff.mp hzero
        exact .inr (.inr ⟨_, rest, rfl⟩)
      · have hlt := hdigits ▸ (Bytes.toNatBE_lt digits).trans_le
          (Nat.pow_le_pow_right (by decide) height)
        have heq : digits = lengthBytes length :=
          Bytes.IsShortest.eq hzero (isShortest_lengthBytes length)
            (hdigits.trans (toNatBE_lengthBytes hlt).symm)
        rw [header_of_lt (Nat.not_le.mp hshort), ← heq]
        exact .inl rfl

/-! ### Waste -/

/-- The bytes are an encoding in which some header could do with fewer bytes. -/
inductive Wasteful : Bytes → Prop
  /-- The header `0x81` stands in front of a byte that could stand for itself. -/
  | single {b : UInt8} : b < 0x80 → Wasteful [0x81, b]
  /-- A long header gives a length of at most 55. -/
  | long {kind b : UInt8} {digits payload : Bytes} : kind = 0x80 ∨ kind = 0xc0 → digits ≠ [] →
      payload.length ≤ 55 → Announces kind payload.length (b :: digits) →
      Wasteful (b :: digits ++ payload)
  /-- The length in a header starts with a zero. -/
  | zero {kind b : UInt8} {digits payload : Bytes} : kind = 0x80 ∨ kind = 0xc0 →
      Announces kind payload.length (b :: 0 :: digits) → Wasteful (b :: 0 :: digits ++ payload)
  /-- An item of a list is encoded like that. -/
  | item {head part : Bytes} {parts : List Bytes} {items : List Rlp} :
      Announces 0xc0 parts.flatten.length head → List.Forall₂ Encodes parts items →
      part ∈ parts → Wasteful part → Wasteful (head ++ parts.flatten)

/-! ### Encodings of the items -/

theorem encodeItems_eq_flatten (items : List Rlp) :
    encodeItems [] items = (items.map encode).flatten := by
  induction items with
  | nil => rfl
  | cons item rest ih => rw [encodeItems_cons, ih, List.map_cons, List.flatten_cons]

theorem encode_list (items : List Rlp) :
    encode (.list items) = framed 0xc0 (items.map encode).flatten := by
  rw [encode, encodeItems_eq_flatten]

theorem length_framed (kind : UInt8) (payload : Bytes) :
    (framed kind payload).length = (header kind payload.length).length + payload.length :=
  List.length_append

/-- A byte string is written with a header unless it is a byte that stands for itself. -/
theorem encode_bytes (payload : Bytes) :
    (∃ b, b < 0x80 ∧ payload = [b] ∧ encode (.bytes payload) = [b]) ∨
      encode (.bytes payload) = framed 0x80 payload := by
  rw [encode]
  match payload with
  | [] => exact .inr rfl
  | [b] =>
    by_cases hb : b < 0x80
    · exact .inl ⟨b, hb, rfl, if_pos hb⟩
    · exact .inr (if_neg hb)
  | _ :: _ :: _ => exact .inr rfl

theorem length_encode_bytes_le (payload : Bytes) :
    (encode (.bytes payload)).length ≤ (framed 0x80 payload).length := by
  obtain ⟨b, -, rfl, h⟩ | h := encode_bytes payload
  · rw [h, length_framed]
    exact Nat.le_add_left _ _
  · rw [h]

/-- What is written for the items are encodings of them, together no longer than any others, if this
is so for each item. -/
theorem forall₂_map_encode {parts : List Bytes} {items : List Rlp}
    (hitem : ∀ item ∈ items, ∀ {bs}, Encodes bs item →
      Encodes item.encode item ∧ item.encode.length ≤ bs.length)
    (h : List.Forall₂ Encodes parts items) :
    List.Forall₂ Encodes (items.map encode) items ∧
      (items.map encode).flatten.length ≤ parts.flatten.length := by
  induction h with
  | nil => exact ⟨.nil, le_rfl⟩
  | cons hpart _ ih =>
    obtain ⟨hfirst, hrest⟩ := List.forall_mem_cons.mp hitem
    obtain ⟨hencodes, hle⟩ := hfirst hpart
    obtain ⟨hothers, hle'⟩ := ih hrest
    refine ⟨.cons hencodes hothers, ?_⟩
    simp only [List.map_cons, List.flatten_cons, List.length_append]
    omega

/-- What is written for an object is one of its encodings and no longer than any other. -/
theorem Encodes.encode (h : Encodes bs object) :
    Encodes object.encode object ∧ object.encode.length ≤ bs.length := by
  induction object generalizing bs with
  | bytes payload =>
    have hle := length_encode_bytes_le payload
    cases h with
    | @single b hb =>
      have heq : Rlp.encode (.bytes [b]) = [b] := if_pos hb
      rw [heq]
      exact ⟨.single hb, le_rfl⟩
    | @bytes head _ hhead =>
      constructor
      · obtain ⟨b, hb, rfl, heq⟩ | heq := encode_bytes payload
        · rw [heq]
          exact .single hb
        · rw [heq]
          exact .bytes (announces_header 0x80 hhead.length_lt)
      · have := length_header_le hhead le_rfl
        rw [length_framed] at hle
        rw [List.length_append]
        omega
  | list items ih =>
    cases h with
    | @list head parts _ hhead hitems =>
      obtain ⟨hanew, hle⟩ := forall₂_map_encode ih hitems
      rw [encode_list]
      constructor
      · exact .list (announces_header 0xc0 (hle.trans_lt hhead.length_lt)) hanew
      · have := length_header_le hhead hle
        rw [length_framed, List.length_append]
        omega

/-- Encodings of the items without waste are those that are written, if this is so for each item. -/
theorem eq_map_encode_or_wasteful {parts : List Bytes} {items : List Rlp}
    (hitem : ∀ item ∈ items, ∀ {bs}, Encodes bs item → bs = item.encode ∨ Wasteful bs)
    (h : List.Forall₂ Encodes parts items) :
    parts = items.map encode ∨ ∃ part ∈ parts, Wasteful part := by
  induction h with
  | nil => exact .inl rfl
  | @cons part item parts items hpart _ ih =>
    obtain ⟨hfirst, hrest⟩ := List.forall_mem_cons.mp hitem
    obtain rfl | hwaste := hfirst hpart
    · obtain rfl | ⟨part, hmem, hwaste⟩ := ih hrest
      · exact .inl rfl
      · exact .inr ⟨part, List.mem_cons_of_mem _ hmem, hwaste⟩
    · exact .inr ⟨part, List.mem_cons_self, hwaste⟩

/-- An encoding without waste is the one that is written. -/
theorem Encodes.eq_encode_or_wasteful (h : Encodes bs object) :
    bs = object.encode ∨ Wasteful bs := by
  induction object generalizing bs with
  | bytes payload =>
    cases h with
    | @single b hb => exact .inl (if_pos hb).symm
    | @bytes head _ hhead =>
      obtain rfl | ⟨hshort, b, digits, hne, rfl⟩ | ⟨b, digits, rfl⟩ := hhead.eq_header_or
      · obtain ⟨b, hb, rfl, heq⟩ | heq := encode_bytes payload
        · exact .inr (.single hb)
        · exact .inl heq.symm
      · exact .inr (.long (.inl rfl) hne hshort hhead)
      · exact .inr (.zero (.inl rfl) hhead)
  | list items ih =>
    cases h with
    | @list head parts _ hhead hitems =>
      obtain rfl | ⟨part, hmem, hwaste⟩ := eq_map_encode_or_wasteful ih hitems
      · obtain rfl | ⟨hshort, b, digits, hne, rfl⟩ | ⟨b, digits, rfl⟩ := hhead.eq_header_or
        · exact .inl (encode_list items).symm
        · exact .inr (.long (.inr rfl) hne hshort hhead)
        · exact .inr (.zero (.inr rfl) hhead)
      · exact .inr (.item hhead hitems hmem hwaste)

/-! ### What waste costs -/

/-- Behind the header of a list stand its items. -/
theorem Encodes.exists_items {payload : Bytes} (hhead : Announces 0xc0 payload.length head)
    (h : Encodes (head ++ payload) object) :
    ∃ parts items, payload = parts.flatten ∧ List.Forall₂ Encodes parts items ∧
      object = .list items := by
  generalize hbs : head ++ payload = bs at h
  cases h with
  | @single b hb =>
    have hbs' : head ++ payload = [b] ++ [] := hbs
    obtain ⟨-, hhead'⟩ := (Opens.list hhead).eq_of_append_eq (Opens.single hb) hbs'
    cases hhead'
  | bytes hbytes =>
    obtain ⟨-, hhead'⟩ := (Opens.list hhead).eq_of_append_eq (Opens.bytes hbytes) hbs
    cases hhead'
  | @list head' parts items hlist hitems =>
    obtain ⟨rfl, -⟩ := (Opens.list hhead).eq_of_append_eq (Opens.list hlist) hbs
    exact ⟨parts, items, List.append_cancel_left hbs, hitems, rfl⟩

theorem length_flatten_encode_le {parts : List Bytes} {items : List Rlp}
    (h : List.Forall₂ Encodes parts items) :
    (items.map Rlp.encode).flatten.length ≤ parts.flatten.length :=
  (forall₂_map_encode (fun _ _ _ hpart => hpart.encode) h).2

theorem length_flatten_encode_lt {part : Bytes} {parts : List Bytes} {items : List Rlp}
    (h : List.Forall₂ Encodes parts items) (hmem : part ∈ parts)
    (hlt : ∀ {item}, Encodes part item → item.encode.length < part.length) :
    (items.map Rlp.encode).flatten.length < parts.flatten.length := by
  induction h with
  | nil => simp at hmem
  | cons hfirst hrest ih =>
    have hle := hfirst.encode.2
    have hle' := length_flatten_encode_le hrest
    simp only [List.map_cons, List.flatten_cons, List.length_append]
    obtain rfl | hmem := List.mem_cons.mp hmem
    · have := hlt hfirst
      omega
    · have := ih hmem
      omega

/-- Behind its header an encoding is never longer when it is written anew. -/
theorem Encodes.exists_length_le {payload : Bytes} (hkind : kind = 0x80 ∨ kind = 0xc0)
    (hhead : Announces kind payload.length head) (h : Encodes (head ++ payload) object) :
    ∃ n ≤ payload.length, object.encode.length ≤ (header kind n).length + n := by
  obtain rfl | rfl := hkind
  · obtain rfl := h.unique (.bytes hhead)
    exact ⟨payload.length, le_rfl, (length_encode_bytes_le payload).trans_eq (length_framed _ _)⟩
  · obtain ⟨parts, items, rfl, hitems, rfl⟩ := h.exists_items hhead
    refine ⟨(items.map Rlp.encode).flatten.length, length_flatten_encode_le hitems, ?_⟩
    rw [encode_list, length_framed]

/-- A zero in front of a length is one byte too many. -/
theorem length_header_lt_of_zero {b : UInt8} {digits : Bytes}
    (h : Announces kind length (b :: 0 :: digits)) (hn : n ≤ length) :
    (header kind n).length < (b :: 0 :: digits).length := by
  by_cases hshort : n ≤ 55
  · rw [header_of_le hshort]
    exact Nat.succ_lt_succ (Nat.succ_pos _)
  · have hlt := hn.trans_lt h.length_lt
    rw [header_of_lt (Nat.not_le.mp hshort)]
    cases h with
    | long _ _ hdigits =>
      refine Nat.succ_lt_succ (Nat.lt_succ_of_le ((isShortest_lengthBytes n).length_le ?_))
      rw [toNatBE_lengthBytes hlt, ← Bytes.toNatBE_zero_cons, hdigits]
      exact hn

/-- A wasteful encoding is longer than the one that is written. -/
theorem Wasteful.length_lt (hw : Wasteful bs) (h : Encodes bs object) :
    object.encode.length < bs.length := by
  -- By induction on where the waste is; the headers around it grow no longer.
  induction hw generalizing object with
  | @single b hb =>
    have hhead : Announces 0x80 [b].length [0x81] := .short (by simp)
    obtain rfl := h.unique (.bytes hhead)
    have heq : Rlp.encode (.bytes [b]) = [b] := if_pos hb
    rw [heq]
    exact Nat.lt_succ_self 1
  | @long kind b digits payload hkind hne hshort hhead =>
    obtain ⟨n, hn, hle⟩ := h.exists_length_le hkind hhead
    have hpos := List.length_pos_iff.mpr hne
    rw [header_of_le (hn.trans hshort)] at hle
    simp only [List.length_append, List.length_cons, List.length_nil] at hle ⊢
    omega
  | @zero kind b digits payload hkind hhead =>
    obtain ⟨n, hn, hle⟩ := h.exists_length_le hkind hhead
    have hlt := length_header_lt_of_zero hhead hn
    rw [List.length_append]
    omega
  | @item head part parts items hhead hitems hmem hwaste ih =>
    -- The item gets shorter, no other item gets longer, and so neither does the header.
    obtain rfl := h.unique (.list hhead hitems)
    have hlt := length_flatten_encode_lt hitems hmem fun h => ih h
    have := length_header_le hhead hlt.le
    rw [encode_list, length_framed, List.length_append]
    omega

/-! ### The canonical encoding -/

/-- What is written for an accepted encoding is shorter or the same, is accepted as the same object,
and is the same just when no header of the encoding could do with fewer bytes. -/
theorem encode_shortest {bs : Bytes} {object : Rlp} (h : decode bs = .ok object) :
    object.encode.length ≤ bs.length ∧
      (object.encode.length = bs.length → object.encode = bs) ∧
      decode object.encode = .ok object ∧ (object.encode = bs ↔ ¬Wasteful bs) := by
  obtain ⟨hencodes, hdepth⟩ := encodes_of_decode h
  obtain ⟨hanew, hle⟩ := hencodes.encode
  have hwaste := hencodes.eq_encode_or_wasteful
  refine ⟨hle, fun hlength => ?_, hanew.decode_eq hdepth, fun heq hw => ?_, fun hw => ?_⟩
  · obtain heq | hw := hwaste
    · exact heq.symm
    · exact absurd hlength (hw.length_lt hencodes).ne
  · exact absurd (congrArg List.length heq) (hw.length_lt hencodes).ne
  · exact (hwaste.resolve_right hw).symm

/-- A list behind a long header, with an item behind a header that it does not need. -/
theorem encode_shortest_long_list :
    decode [0xf8, 0x03, 0x81, 0x05, 0x80] = .ok (.list [.bytes [0x05], .bytes []]) ∧
      encode (.list [.bytes [0x05], .bytes []]) = [0xc2, 0x05, 0x80] ∧
      (encode (.list [.bytes [0x05], .bytes []]) = [0xf8, 0x03, 0x81, 0x05, 0x80] ↔
        ¬Wasteful [0xf8, 0x03, 0x81, 0x05, 0x80]) := by
  have h : decode [0xf8, 0x03, 0x81, 0x05, 0x80] = .ok (.list [.bytes [0x05], .bytes []]) := by
    cbv
  exact ⟨h, by decide, (encode_shortest h).2.2.2⟩

end ScoreDeploy.Rlp
