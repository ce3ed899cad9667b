import ScoreDeploy.Proofs.Rlp.Canonical

/-!
# How deep lists may be nested

What is written for an object is read again as this object just when no more than `maxDepth` lists
lie inside one another in it, and otherwise the reader says that they do. `Nests` follows one chain
of lists from the outermost one inwards, so that it never looks at what stands beside them.
-/

namespace ScoreDeploy.Rlp

/-- In the object at least `n` lists lie inside one another. -/
inductive Nests : Nat → Rlp → Prop
  | zero (object : Rlp) : Nests 0 object
  | list (items : List Rlp) : Nests 1 (.list items)
  | inside {n : Nat} {item : Rlp} {items : List Rlp} :
      item ∈ items → Nests n item → Nests (n + 1) (.list items)

variable {object : Rlp} {bs : Bytes} {c c' : Cursor} {depth limit : Nat}

theorem Nests.le_depth {n : Nat} (h : Nests n object) : n ≤ object.depth := by
  induction h with
  | zero => exact Nat.zero_le _
  | list items =>
    rw [Rlp.depth]
    exact Nat.le_add_left 1 _
  | @inside n item items hmem _ ih =>
    rw [Rlp.depth]
    have hitem := depthItems_le_iff.mp (le_refl (depthItems items)) item hmem
    omega

theorem nests_depth (object : Rlp) : Nests object.depth object := by
  induction object with
  | bytes payload => exact .zero _
  | list items ih =>
    by_cases hflat : depthItems items = 0
    · rw [Rlp.depth, hflat]
      exact .list items
    · -- Some item is as deep as they all are together.
      have hnot : ¬∀ item ∈ items, item.depth ≤ depthItems items - 1 := by
        intro h
        have := depthItems_le_iff.mpr h
        omega
      push Not at hnot
      obtain ⟨item, hmem, hlt⟩ := hnot
      have hle := depthItems_le_iff.mp (le_refl (depthItems items)) item hmem
      have heq : item.depth = depthItems items := by omega
      rw [Rlp.depth, ← heq]
      exact .inside hmem (ih item hmem)

theorem Nests.mono {m n : Nat} (h : Nests n object) (hle : m ≤ n) : Nests m object := by
  induction h generalizing m with
  | zero object =>
    obtain rfl := Nat.le_zero.mp hle
    exact .zero object
  | list items =>
    obtain rfl | rfl := Nat.le_one_iff_eq_zero_or_eq_one.mp hle
    · exact .zero _
    · exact .list items
  | inside hmem _ ih =>
    cases m with
    | zero => exact .zero _
    | succ m => exact .inside hmem (ih (Nat.le_of_succ_le_succ hle))

theorem nests_iff {n : Nat} : Nests n object ↔ n ≤ object.depth :=
  ⟨Nests.le_depth, (nests_depth object).mono⟩

/-! ### Objects that are short enough to be written -/

theorem length_header_le_nine (kind : UInt8) (n : Nat) : (header kind n).length ≤ 9 := by
  by_cases hshort : n ≤ 55
  · rw [header_of_le hshort]
    exact Nat.le_add_left 1 8
  · rw [header_of_lt (Nat.not_le.mp hshort)]
    exact Nat.succ_le_succ (length_lengthBytes_le n)

theorem length_encode_le_of_mem {item : Rlp} {items : List Rlp} (h : item ∈ items) :
    item.encode.length ≤ (items.map encode).flatten.length :=
  (List.sublist_flatten_of_mem (List.mem_map_of_mem h)).length_le

theorem length_flatten_le_encode_list (items : List Rlp) :
    (items.map encode).flatten.length ≤ (encode (.list items)).length := by
  rw [encode_list, length_framed]
  exact Nat.le_add_left _ _

theorem forall₂_encodes_map {items : List Rlp} (h : ∀ item ∈ items, Encodes item.encode item) :
    List.Forall₂ Encodes (items.map encode) items := by
  induction items with
  | nil => exact .nil
  | cons item rest ih =>
    obtain ⟨hitem, hrest⟩ := List.forall_mem_cons.mp h
    exact .cons hitem (ih hrest)

/-- What is written for an object belongs to the grammar as long as its length can be told in eight
bytes. -/
theorem encodes_encode (h : object.encode.length < 256 ^ 8) : Encodes object.encode object := by
  induction object with
  | bytes payload =>
    obtain ⟨b, hb, rfl, heq⟩ | heq := encode_bytes payload
    · rw [heq]
      exact .single hb
    · rw [heq] at h ⊢
      have hlt : payload.length < 256 ^ 8 := by
        rw [length_framed] at h
        omega
      exact .bytes (announces_header 0x80 hlt)
  | list items ih =>
    have hlt := (length_flatten_le_encode_list items).trans_lt h
    have hitems : List.Forall₂ Encodes (items.map encode) items :=
      forall₂_encodes_map fun item hmem =>
        ih item hmem ((length_encode_le_of_mem hmem).trans_lt hlt)
    rw [encode_list]
    exact .list (announces_header 0xc0 hlt) hitems

/-! ### Objects that are nested too deep -/

/-- Items are read one after another up to the first one that is nested too deep. -/
theorem readItems_eq_tooDeep {stop count : Nat} {done : List Rlp} {parts : List Bytes}
    {items : List Rlp} (hitems : List.Forall₂ Encodes parts items)
    (hread : ∀ {c item}, item ∈ items → ∀ {bs c'}, Encodes bs item → c.Fits stop →
      c.Passes bs c' → c'.position ≤ stop → depth < item.depth →
      ∃ offset, readItem depth stop c = .error (.tooDeep offset))
    (hc : c.Fits stop) (hpasses : c.Passes parts.flatten c') (hstop : c'.position = stop)
    (hcount : stop - c.position ≤ count) (hdeep : ∃ item ∈ items, depth < item.depth) :
    ∃ offset, readItems (readItem depth stop) stop count done c = .error (.tooDeep offset) := by
  induction hitems generalizing c done count with
  | nil =>
    obtain ⟨item, hmem, -⟩ := hdeep
    exact absurd hmem List.not_mem_nil
  | @cons part item parts items hpart _ ih =>
    rw [List.flatten_cons] at hpasses
    obtain ⟨c₁, hfirst, hrest⟩ := Cursor.Passes.append_iff.mp hpasses
    have hpos := hpart.length_pos
    have hposition := hfirst.position
    have hc₁ : c₁.position ≤ stop := by
      have := hrest.position
      omega
    obtain ⟨count, rfl⟩ : ∃ n, count = n + 1 := ⟨count - 1, by omega⟩
    rw [readItems, if_pos (by omega)]
    by_cases hitem : depth < item.depth
    · obtain ⟨offset, herror⟩ := hread List.mem_cons_self hpart hc hfirst hc₁ hitem
      exact ⟨offset, by rw [herror]⟩
    · have hok : readItem depth stop c = .ok (item, c₁) :=
        (readItem_eq_ok_iff hc).mpr ⟨part, ⟨hpart, Nat.not_lt.mp hitem⟩, hfirst, hc₁⟩
      rw [hok]
      refine ih (fun hmem => hread (List.mem_cons_of_mem _ hmem)) (hc.of_passes hfirst hc₁) hrest
        (by omega) ?_
      obtain ⟨deep, hmem, hlt⟩ := hdeep
      obtain rfl | hmem := List.mem_cons.mp hmem
      · exact absurd hlt hitem
      · exact ⟨deep, hmem, hlt⟩

/-- The reader refuses an object that is nested deeper than it may go, wherever in it that is. -/
theorem readItem_eq_tooDeep (hencodes : Encodes bs object) (hc : c.Fits limit)
    (hpasses : c.Passes bs c') (hlimit : c'.position ≤ limit) (hdeep : depth < object.depth) :
    ∃ offset, readItem depth limit c = .error (.tooDeep offset) := by
  -- By induction on the object: an item of a list is read with one level less.
  induction object generalizing bs c c' depth limit with
  | bytes payload => exact absurd hdeep (Nat.not_lt_zero _)
  | list items ih =>
    cases hencodes with
    | @list head parts _ hhead hitems =>
      obtain ⟨c₁, hfirst, hpayload⟩ := Cursor.Passes.append_iff.mp hpasses
      have hposition := hpayload.position
      have hc₁ : c₁.position ≤ limit := by omega
      have hopen : readHead limit c = .ok (.list parts.flatten.length, c₁) :=
        (readHead_eq_ok_iff hc).mpr ⟨head, .list hhead, hfirst, hc₁⟩
      have hensure : c₁.ensure parts.flatten.length limit = .ok () :=
        (Cursor.ensure_eq_ok_iff (hc.of_passes hfirst hc₁)).mpr (by omega)
      rw [readItem_eq, hopen, Except.ok_bind, readPayload]
      cases depth with
      | zero =>
        rw [readList, hensure]
        exact ⟨c₁.position, rfl⟩
      | succ depth =>
        rw [readList, hensure]
        have hsome : ∃ item ∈ items, depth < item.depth := by
          by_contra hnone
          push Not at hnone
          exact absurd hdeep (Nat.not_lt.mpr (depth_list_le_succ_iff.mpr hnone))
        exact readItems_eq_tooDeep hitems (fun hmem => ih _ hmem)
          ((hc.of_passes hfirst hc₁).mono (Nat.le_add_right _ _) (by omega)) hpayload hposition
          (by omega) hsome

theorem Encodes.decode_eq_tooDeep (h : Encodes bs object) (hdeep : maxDepth < object.depth) :
    ∃ offset, decode bs = .error (.tooDeep offset) := by
  have hpasses : Cursor.Passes ⟨bs, 0⟩ bs ⟨[], bs.length⟩ := by
    simpa only [List.append_nil] using Cursor.start_passes bs []
  obtain ⟨offset, herror⟩ :=
    readItem_eq_tooDeep h (Cursor.start_fits bs) hpasses le_rfl hdeep
  exact ⟨offset, by rw [Rlp.decode_eq, herror]; rfl⟩

/-! ### Reading what was written -/

/-- What is written for an object is read as this object up to the limit, and not beyond it. -/
theorem decode_encode_eq_ok_iff (h : object.encode.length < 256 ^ 8) :
    decode object.encode = .ok object ↔ object.depth ≤ maxDepth :=
  ⟨fun hok => (encodes_of_decode hok).2, (encodes_encode h).decode_eq⟩

/-- An object is read back if at most 1024 lists lie inside one another in it, and is refused for
its nesting if more do. Lists beside one another do not add up: a list is read back just when each
of its items is, alone in a list. -/
theorem decode_encode_of_length_lt (object : Rlp) (h : object.encode.length < 2 ^ 63) :
    (¬Nests 1025 object → decode object.encode = .ok object) ∧
      (Nests 1025 object → ∃ offset, decode object.encode = .error (.tooDeep offset)) ∧
      ∀ items, object = .list items → (decode object.encode = .ok object ↔
        ∀ item ∈ items, decode (encode (.list [item])) = .ok (.list [item])) := by
  have hshort : object.encode.length < 256 ^ 8 := h.trans (by decide)
  have hencodes := encodes_encode hshort
  refine ⟨fun hflat => ?_, fun hdeep => ?_, ?_⟩
  · rw [nests_iff] at hflat
    exact hencodes.decode_eq (Nat.le_of_lt_succ (Nat.not_le.mp hflat))
  · exact hencodes.decode_eq_tooDeep (nests_iff.mp hdeep)
  · rintro items rfl
    -- A header takes at most nine bytes, so an item alone in a list is still short enough.
    have halone : ∀ item ∈ items, (encode (.list [item])).length < 256 ^ 8 := by
      intro item hmem
      have hitem := (length_encode_le_of_mem hmem).trans (length_flatten_le_encode_list items)
      have hhead := length_header_le_nine 0xc0 item.encode.length
      rw [encode_list, List.map_singleton, List.flatten_singleton, length_framed]
      omega
    rw [decode_encode_eq_ok_iff hshort, maxDepth, depth_list_le_succ_iff]
    refine forall₂_congr fun item hmem => ?_
    rw [decode_encode_eq_ok_iff (halone item hmem), maxDepth, depth_list_le_succ_iff,
      List.forall_mem_singleton]

/-- A tower of lists, each between two empty ones. -/
def tower : Nat → Rlp
  | 0 => .list []
  | n + 1 => .list [.list [], tower n, .list []]

theorem depth_tower (n : Nat) : (tower n).depth = n + 1 := by
  induction n with
  | zero => rfl
  | succ n ih =>
    simp only [tower, depth, depthItems, ih]
    omega

theorem length_encode_tower_le (n : Nat) : (tower n).encode.length ≤ 11 * n + 1 := by
  induction n with
  | zero => exact le_rfl
  | succ n ih =>
    have hempty : (encode (.list [])).length = 1 := rfl
    rw [tower, encode_list, length_framed]
    have hhead := length_header_le_nine 0xc0
      ([Rlp.list [], tower n, .list []].map encode).flatten.length
    have hitems : ([Rlp.list [], tower n, .list []].map encode).flatten.length ≤ 11 * n + 3 := by
      simp only [List.map_cons, List.map_nil, List.flatten_cons, List.flatten_nil,
        List.length_append, List.length_nil, hempty]
      omega
    omega

/-- A tower is refused as soon as it is higher than the limit. -/
theorem decode_encode_tower_eq_tooDeep {n : Nat} (hdeep : maxDepth ≤ n)
    (hshort : 11 * n + 1 < 256 ^ 8) :
    ∃ offset, decode (tower n).encode = .error (.tooDeep offset) := by
  have hlength := (length_encode_tower_le n).trans_lt hshort
  refine (encodes_encode hlength).decode_eq_tooDeep ?_
  rw [depth_tower]
  exact Nat.lt_succ_of_le hdeep

/-- Of two towers the one with 1024 lists inside one another is read back, and the next one is
refused. -/
theorem decode_encode_tower :
    decode (tower 1023).encode = .ok (tower 1023) ∧
      ∃ offset, decode (tower 1024).encode = .error (.tooDeep offset) := by
  have hlow : (tower 1023).encode.length < 2 ^ 63 :=
    (length_encode_tower_le 1023).trans_lt (by decide)
  have hhigh : (tower 1024).encode.length < 2 ^ 63 :=
    (length_encode_tower_le 1024).trans_lt (by decide)
  have hflat : ¬Nests 1025 (tower 1023) := by
    rw [nests_iff, depth_tower]
    decide
  have hdeep : Nests 1025 (tower 1024) := by
    rw [nests_iff, depth_tower]
  exact ⟨(decode_encode_of_length_lt _ hlow).1 hflat,
    (decode_encode_of_length_lt _ hhigh).2.1 hdeep⟩

end ScoreDeploy.Rlp
