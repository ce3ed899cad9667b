import ScoreDeploy.Proofs.Except
import ScoreDeploy.Proofs.Rlp.Grammar

/-!
# What the reader accepts

Every step of the reader moves a cursor over bytes that end before a limit. `Cursor.Fits` is the
invariant under which the limit may be trusted, and `Cursor.Passes` names the bytes between two
cursors. In these terms each reader succeeds just when the bytes that it passes belong to the
grammar, and `decode` accepts just the encodings of the objects that are not nested too deep.
-/

namespace ScoreDeploy.Rlp

namespace Cursor

/-- The limit lies neither before the cursor nor behind the last byte. -/
def Fits (c : Cursor) (limit : Nat) : Prop :=
  c.position ≤ limit ∧ limit ≤ c.position + c.rest.length

/-- The bytes lie between the first cursor and the second. -/
structure Passes (c : Cursor) (bs : Bytes) (c' : Cursor) : Prop where
  rest : c.rest = bs ++ c'.rest
  position : c'.position = c.position + bs.length

variable {c c' c'' : Cursor} {as bs : Bytes} {count limit : Nat}

theorem Passes.nil_iff : c.Passes [] c' ↔ c' = c := by
  constructor
  · rintro ⟨hrest, hposition⟩
    cases c
    cases c'
    simp_all
  · rintro rfl
    exact ⟨rfl, rfl⟩

theorem Passes.append_iff :
    c.Passes (as ++ bs) c'' ↔ ∃ c', c.Passes as c' ∧ c'.Passes bs c'' := by
  constructor
  · rintro ⟨hrest, hposition⟩
    refine ⟨⟨bs ++ c''.rest, c.position + as.length⟩, ⟨?_, rfl⟩, ⟨rfl, ?_⟩⟩
    · rw [hrest, List.append_assoc]
    · rw [hposition, List.length_append, Nat.add_assoc]
  · rintro ⟨c', h, h'⟩
    refine ⟨?_, ?_⟩
    · rw [h.rest, h'.rest, List.append_assoc]
    · rw [h'.position, h.position, List.length_append, Nat.add_assoc]

/-- A limit that is still ahead can be trusted as before. -/
theorem Fits.of_passes (hc : c.Fits limit) (h : c.Passes bs c') (hlimit : c'.position ≤ limit) :
    c'.Fits limit := by
  refine ⟨hlimit, hc.2.trans_eq ?_⟩
  rw [h.rest, h.position, List.length_append, Nat.add_assoc]

/-- A nearer limit can be trusted too. -/
theorem Fits.mono {stop : Nat} (hc : c.Fits limit) (hstop : c.position ≤ stop)
    (hlimit : stop ≤ limit) : c.Fits stop :=
  ⟨hstop, hlimit.trans hc.2⟩

/-- From the start the end of the bytes may be trusted. -/
theorem start_fits (bs : Bytes) : Fits ⟨bs, 0⟩ bs.length :=
  ⟨Nat.zero_le _, (Nat.zero_add _).ge⟩

theorem start_passes (bs rest : Bytes) : Passes ⟨bs ++ rest, 0⟩ bs ⟨rest, bs.length⟩ :=
  ⟨rfl, (Nat.zero_add _).symm⟩

theorem ensure_eq_ok_iff (hc : c.Fits limit) :
    c.ensure count limit = .ok () ↔ c.position + count ≤ limit := by
  have := hc.1
  rw [ensure]
  split <;> simp <;> omega

theorem take_eq_ok_iff (hc : c.Fits limit) :
    c.take count limit = .ok (bs, c') ↔
      bs.length = count ∧ c.Passes bs c' ∧ c'.position ≤ limit := by
  rw [take, Except.bind_eq_ok_iff]
  constructor
  · rintro ⟨⟨⟩, hensure, h⟩
    rw [ensure_eq_ok_iff hc] at hensure
    obtain ⟨rfl, rfl⟩ := Prod.mk.inj (Except.ok.inj h)
    have hlength : (c.rest.take count).length = count := by
      have := hc.2
      rw [List.length_take]
      omega
    refine ⟨hlength, ⟨?_, ?_⟩, hensure⟩
    · exact (List.take_append_drop count c.rest).symm
    · rw [hlength]
  · rintro ⟨rfl, h, hlimit⟩
    refine ⟨(), (ensure_eq_ok_iff hc).mpr (h.position ▸ hlimit), ?_⟩
    rw [h.rest, List.take_left, List.drop_left, ← h.position]
    rfl

/-- If a reader passes just what belongs to `P`, nothing of `P` starts with something else of it. -/
theorem eq_of_append_eq {α : Type} {P : Bytes → α → Prop}
    {read : Cursor → Except Error (α × Cursor)} {rest rest' : Bytes} {a a' : α}
    (hread : ∀ {a c'}, read ⟨as ++ rest, 0⟩ = .ok (a, c') ↔
      ∃ bs, P bs a ∧ Passes ⟨as ++ rest, 0⟩ bs c' ∧ c'.position ≤ (as ++ rest).length)
    (h : P as a) (h' : P bs a') (heq : as ++ rest = bs ++ rest') : as = bs ∧ a = a' := by
  have hpasses := start_passes as rest
  have hpasses' : Passes ⟨as ++ rest, 0⟩ bs ⟨rest', bs.length⟩ := heq ▸ start_passes bs rest'
  have hfirst := hread.mpr ⟨as, h, hpasses, by simp⟩
  have hsecond := hread.mpr ⟨bs, h', hpasses', by simp [heq]⟩
  -- One run cannot stop at two places.
  obtain ⟨rfl, hcursor⟩ := Prod.mk.inj (Except.ok.inj (hfirst.symm.trans hsecond))
  obtain ⟨rfl, -⟩ := Cursor.mk.inj hcursor
  exact ⟨List.append_cancel_right heq, rfl⟩

end Cursor

/-! ### Headers -/

/-- The bytes are a header that announces this. -/
inductive Opens : Bytes → Head → Prop
  | single {b : UInt8} : b < 0x80 → Opens [b] (.single b)
  | bytes {length : Nat} {head : Bytes} : Announces 0x80 length head → Opens head (.bytes length)
  | list {length : Nat} {head : Bytes} : Announces 0xc0 length head → Opens head (.list length)

variable {c c' c₁ : Cursor} {limit : Nat}

theorem readLength_eq_ok_iff {size length : Nat} (hc : c.Fits limit) :
    readLength size limit c = .ok (length, c') ↔ ∃ digits : Bytes, digits.length = size ∧
      Bytes.toNatBE digits = length ∧ c.Passes digits c' ∧ c'.position ≤ limit := by
  rw [readLength, Except.bind_eq_ok_iff]
  constructor
  · rintro ⟨⟨digits, c₁⟩, htake, h⟩
    obtain ⟨hsize, hpasses, hlimit⟩ := (Cursor.take_eq_ok_iff hc).mp htake
    obtain ⟨rfl, rfl⟩ := Prod.mk.inj (Except.ok.inj h)
    exact ⟨digits, hsize, rfl, hpasses, hlimit⟩
  · rintro ⟨digits, hsize, rfl, hpasses, hlimit⟩
    exact ⟨(digits, c'), (Cursor.take_eq_ok_iff hc).mpr ⟨hsize, hpasses, hlimit⟩, rfl⟩

theorem take_one_eq_ok_iff {first : Bytes} (hc : c.Fits limit) :
    c.take 1 limit = .ok (first, c') ↔
      ∃ b, first = [b] ∧ c.Passes [b] c' ∧ c'.position ≤ limit := by
  rw [Cursor.take_eq_ok_iff hc]
  constructor
  · rintro ⟨hone, hpasses, hlimit⟩
    obtain ⟨b, rfl⟩ := List.length_eq_one_iff.mp hone
    exact ⟨b, rfl, hpasses, hlimit⟩
  · rintro ⟨b, rfl, hpasses, hlimit⟩
    exact ⟨rfl, hpasses, hlimit⟩

/-- What stands behind the first byte of a header of that kind. -/
def FollowsFirst (kind length limit : Nat) (b : UInt8) (c₁ c' : Cursor) : Prop :=
  kind ≤ b.toNat ∧ b.toNat ≤ kind + 55 ∧ b.toNat - kind = length ∧ c₁ = c' ∨
    kind + 55 < b.toNat ∧ b.toNat ≤ kind + 63 ∧
      readLength (b.toNat - (kind + 55)) limit c₁ = .ok (length, c')

/-- A header is its first byte and what stands behind it. -/
theorem announces_iff {kind : UInt8} {k : Nat} (hc : c.Fits limit) (hkind : kind.toNat = k)
    (hk : k ≤ 0xc0) (c' : Cursor) (length : Nat) :
    (∃ bs, Announces kind length bs ∧ c.Passes bs c' ∧ c'.position ≤ limit) ↔
      ∃ b c₁, (c.Passes [b] c₁ ∧ c₁.position ≤ limit) ∧ FollowsFirst k length limit b c₁ c' := by
  have hk55 : (kind + 55).toNat = k + 55 := by
    rw [← hkind]
    exact toNat_add_ofNat (n := 55) (by omega)
  constructor
  · rintro ⟨bs, hbs, hpasses, hlimit⟩
    cases hbs with
    | short hshort =>
      have hb := toNat_add_ofNat (show kind.toNat + length < 256 by omega)
      exact ⟨_, c', ⟨hpasses, hlimit⟩, .inl ⟨by omega, by omega, by omega, rfl⟩⟩
    | @long digits hone height hdigits =>
      -- The first byte says how many digits there are, and the reader takes as many.
      have hb : (kind + 55 + UInt8.ofNat digits.length).toNat = k + 55 + digits.length :=
        (toNat_add_ofNat (by omega)).trans (by rw [hk55])
      rw [← List.singleton_append] at hpasses
      obtain ⟨c₁, hfirst, hrest⟩ := Cursor.Passes.append_iff.mp hpasses
      have hc₁ : c₁.position ≤ limit := by
        have := hrest.position
        omega
      have hread := (readLength_eq_ok_iff (hc.of_passes hfirst hc₁)).mpr
        ⟨digits, rfl, hdigits, hrest, hlimit⟩
      refine ⟨_, c₁, ⟨hfirst, hc₁⟩, .inr ⟨by omega, by omega, ?_⟩⟩
      rw [hb, Nat.add_sub_cancel_left]
      exact hread
  · rintro ⟨b, c₁, ⟨hfirst, hc₁⟩, ⟨hlow, hhigh, rfl, rfl⟩ | ⟨hlow, hhigh, hread⟩⟩
    · have hb : b = kind + UInt8.ofNat (b.toNat - k) := eq_add_ofNat (by omega)
      have hshort : Announces kind (b.toNat - k) [kind + UInt8.ofNat (b.toNat - k)] :=
        .short (by omega)
      rw [← hb] at hshort
      exact ⟨[b], hshort, hfirst, hc₁⟩
    · obtain ⟨digits, hsize, hdigits, hrest, hlimit⟩ :=
        (readLength_eq_ok_iff (hc.of_passes hfirst hc₁)).mp hread
      have hb : b = kind + 55 + UInt8.ofNat digits.length := eq_add_ofNat (by omega)
      refine ⟨b :: digits, ?_, Cursor.Passes.append_iff.mpr ⟨c₁, hfirst, hrest⟩, hlimit⟩
      rw [hb]
      exact .long (by omega) (by omega) hdigits

/-- What the first byte of a header leaves to be read. -/
theorem readHead_eq_ok_iff_first {head : Head} (hc : c.Fits limit) :
    readHead limit c = .ok (head, c') ↔
      ∃ b c₁, (c.Passes [b] c₁ ∧ c₁.position ≤ limit) ∧
        (b < 0x80 ∧ head = .single b ∧ c₁ = c' ∨
          (∃ length, head = .bytes length ∧ FollowsFirst 0x80 length limit b c₁ c') ∨
          ∃ length, head = .list length ∧ FollowsFirst 0xc0 length limit b c₁ c') := by
  rw [readHead, Except.bind_eq_ok_iff]
  constructor
  · rintro ⟨⟨first, c₁⟩, htake, h⟩
    obtain ⟨b, rfl, hfirst⟩ := (take_one_eq_ok_iff hc).mp htake
    have hb := b.toNat_lt
    refine ⟨b, c₁, hfirst, ?_⟩
    simp only [Bytes.toNatBE_singleton] at h
    -- The branches of the reader are the five ranges of first bytes.
    split_ifs at h with h₁ h₂ h₃ h₄
    · obtain ⟨rfl, rfl⟩ := Prod.mk.inj (Except.ok.inj h)
      exact .inl ⟨UInt8.lt_iff_toNat_lt.mpr h₁, by rw [UInt8.ofNat_toNat], rfl⟩
    · obtain ⟨rfl, rfl⟩ := Prod.mk.inj (Except.ok.inj h)
      exact .inr (.inl ⟨_, rfl, .inl ⟨by omega, by omega, rfl, rfl⟩⟩)
    · obtain ⟨⟨length, c₂⟩, hread, h⟩ := Except.bind_eq_ok_iff.mp h
      obtain ⟨rfl, rfl⟩ := Prod.mk.inj (Except.ok.inj h)
      exact .inr (.inl ⟨length, rfl, .inr ⟨by omega, by omega, hread⟩⟩)
    · obtain ⟨rfl, rfl⟩ := Prod.mk.inj (Except.ok.inj h)
      exact .inr (.inr ⟨_, rfl, .inl ⟨by omega, by omega, rfl, rfl⟩⟩)
    · obtain ⟨⟨length, c₂⟩, hread, h⟩ := Except.bind_eq_ok_iff.mp h
      obtain ⟨rfl, rfl⟩ := Prod.mk.inj (Except.ok.inj h)
      exact .inr (.inr ⟨length, rfl, .inr ⟨by omega, by omega, hread⟩⟩)
  · rintro ⟨b, c₁, hfirst, h⟩
    refine ⟨([b], c₁), (take_one_eq_ok_iff hc).mpr ⟨b, rfl, hfirst⟩, ?_⟩
    simp only [Bytes.toNatBE_singleton]
    obtain ⟨hb, rfl, rfl⟩ | ⟨length, rfl, hfollows⟩ | ⟨length, rfl, hfollows⟩ := h
    · have hsmall : b.toNat < 0x80 := hb
      rw [if_pos hsmall, UInt8.ofNat_toNat]
      rfl
    · obtain ⟨hlow, hhigh, rfl, rfl⟩ | ⟨hlow, hhigh, hread⟩ := hfollows
      · rw [if_neg (by omega), if_pos (by omega)]
        rfl
      · rw [if_neg (by omega), if_neg (by omega), if_pos (by omega), hread]
        rfl
    · obtain ⟨hlow, hhigh, rfl, rfl⟩ | ⟨hlow, hhigh, hread⟩ := hfollows
      · rw [if_neg (by omega), if_neg (by omega), if_neg (by omega), if_pos (by omega)]
        rfl
      · rw [if_neg (by omega), if_neg (by omega), if_neg (by omega), if_neg (by omega), hread]
        rfl

theorem readHead_eq_ok_iff {head : Head} (hc : c.Fits limit) :
    readHead limit c = .ok (head, c') ↔
      ∃ bs, Opens bs head ∧ c.Passes bs c' ∧ c'.position ≤ limit := by
  have hstring := announces_iff hc (show (0x80 : UInt8).toNat = 0x80 from rfl) (by decide) c'
  have hlist := announces_iff hc (show (0xc0 : UInt8).toNat = 0xc0 from rfl) (by decide) c'
  rw [readHead_eq_ok_iff_first hc]
  constructor
  · rintro ⟨b, c₁, hfirst, ⟨hb, rfl, rfl⟩ | ⟨length, rfl, hfollows⟩ | ⟨length, rfl, hfollows⟩⟩
    · exact ⟨[b], .single hb, hfirst⟩
    · obtain ⟨bs, hbs, hpasses⟩ := (hstring length).mpr ⟨b, c₁, hfirst, hfollows⟩
      exact ⟨bs, .bytes hbs, hpasses⟩
    · obtain ⟨bs, hbs, hpasses⟩ := (hlist length).mpr ⟨b, c₁, hfirst, hfollows⟩
      exact ⟨bs, .list hbs, hpasses⟩
  · rintro ⟨bs, hopens, hpasses⟩
    cases hopens with
    | @single b hb => exact ⟨b, c', hpasses, .inl ⟨hb, rfl, rfl⟩⟩
    | @bytes length _ hbs =>
      obtain ⟨b, c₁, hfirst, hfollows⟩ := (hstring length).mp ⟨bs, hbs, hpasses⟩
      exact ⟨b, c₁, hfirst, .inr (.inl ⟨length, rfl, hfollows⟩)⟩
    | @list length _ hbs =>
      obtain ⟨b, c₁, hfirst, hfollows⟩ := (hlist length).mp ⟨bs, hbs, hpasses⟩
      exact ⟨b, c₁, hfirst, .inr (.inr ⟨length, rfl, hfollows⟩)⟩

/-- No header starts with another one. -/
theorem Opens.eq_of_append_eq {as bs rest rest' : Bytes} {head head' : Head} (h : Opens as head)
    (h' : Opens bs head') (heq : as ++ rest = bs ++ rest') : as = bs ∧ head = head' :=
  Cursor.eq_of_append_eq (readHead_eq_ok_iff (Cursor.start_fits _)) h h' heq

/-! ### Items -/

/-- The invariant of a loop over items: what is left before `stop` are encodings, by `P`, of the
items that are still missing. -/
def Leaves (P : Bytes → Rlp → Prop) (stop : Nat) (done : List Rlp) (c : Cursor) (object : Rlp)
    (c' : Cursor) : Prop :=
  ∃ parts items, List.Forall₂ P parts items ∧ object = .list (done.reverse ++ items) ∧
    c.Passes parts.flatten c' ∧ c'.position = stop

variable {P : Bytes → Rlp → Prop} {stop : Nat} {done : List Rlp} {object : Rlp}

/-- Nothing is missing at the end. -/
theorem leaves_iff_of_position_eq (hP : ∀ bs item, P bs item → 0 < bs.length)
    (hc : c.position = stop) :
    Leaves P stop done c object c' ↔ object = .list done.reverse ∧ c' = c := by
  constructor
  · rintro ⟨parts, items, hitems, rfl, hpasses, hstop⟩
    cases hitems with
    | nil => exact ⟨by rw [List.append_nil], Cursor.Passes.nil_iff.mp hpasses⟩
    | @cons part item parts items hpart hrest =>
      have hpos := hP _ _ hpart
      have hposition := hpasses.position
      rw [List.flatten_cons, List.length_append] at hposition
      omega
  · rintro ⟨rfl, rfl⟩
    exact ⟨[], [], .nil, by rw [List.append_nil], Cursor.Passes.nil_iff.mpr rfl, hc⟩

/-- One item goes over from those that are missing to those that are done. -/
theorem leaves_iff_of_position_lt (hc : c.position < stop) :
    Leaves P stop done c object c' ↔ ∃ bs item c₁, P bs item ∧ c.Passes bs c₁ ∧
      c₁.position ≤ stop ∧ Leaves P stop (item :: done) c₁ object c' := by
  constructor
  · rintro ⟨parts, items, hitems, rfl, hpasses, hstop⟩
    cases hitems with
    | nil =>
      rw [Cursor.Passes.nil_iff.mp hpasses] at hstop
      omega
    | @cons part item parts items hpart hrest =>
      obtain ⟨c₁, hfirst, hpasses⟩ := Cursor.Passes.append_iff.mp hpasses
      have hposition := hpasses.position
      refine ⟨part, item, c₁, hpart, hfirst, by omega, parts, items, hrest, ?_, hpasses, hstop⟩
      rw [List.reverse_cons, List.append_assoc, List.singleton_append]
  · rintro ⟨part, item, c₁, hpart, hfirst, -, parts, items, hrest, rfl, hpasses, hstop⟩
    refine ⟨part :: parts, item :: items, .cons hpart hrest, ?_,
      Cursor.Passes.append_iff.mpr ⟨c₁, hfirst, hpasses⟩, hstop⟩
    rw [List.reverse_cons, List.append_assoc, List.singleton_append]

/-- The loop ends well just when encodings of items are left, if its step reads just the encodings
of items. -/
theorem readItems_eq_ok_iff {read : Cursor → Except Error (Rlp × Cursor)}
    (hP : ∀ bs item, P bs item → 0 < bs.length)
    (hread : ∀ {c item c'}, c.Fits stop →
      (read c = .ok (item, c') ↔ ∃ bs, P bs item ∧ c.Passes bs c' ∧ c'.position ≤ stop))
    {count : Nat} (hc : c.Fits stop) (hcount : stop - c.position ≤ count) :
    readItems read stop count done c = .ok (object, c') ↔ Leaves P stop done c object c' := by
  have hend {done : List Rlp} {c : Cursor} (hstop : c.position = stop) :
      (Except.ok (Rlp.list done.reverse, c) : Except Error _) = .ok (object, c') ↔
        Leaves P stop done c object c' := by
    rw [leaves_iff_of_position_eq hP hstop, Except.ok.injEq, Prod.mk.injEq, eq_comm (b := object),
      eq_comm (b := c')]
  -- By induction on the bound; an item takes a byte, so that the bound covers what is left.
  induction count generalizing done c with
  | zero =>
    rw [readItems]
    exact hend (by have := hc.1; omega)
  | succ count ih =>
    rw [readItems]
    by_cases hlt : c.position < stop
    · rw [if_pos hlt, leaves_iff_of_position_lt hlt]
      constructor
      · intro h
        cases hitem : read c with
        | error e =>
          rw [hitem] at h
          cases h
        | ok result =>
          obtain ⟨item, c₁⟩ := result
          rw [hitem] at h
          obtain ⟨bs, hbs, hpasses, hlimit⟩ := (hread hc).mp hitem
          have hpos := hP bs item hbs
          have hposition := hpasses.position
          exact ⟨bs, item, c₁, hbs, hpasses, hlimit,
            (ih (hc.of_passes hpasses hlimit) (by omega)).mp h⟩
      · rintro ⟨bs, item, c₁, hbs, hpasses, hlimit, hleaves⟩
        have hpos := hP bs item hbs
        have hposition := hpasses.position
        rw [(hread hc).mpr ⟨bs, hbs, hpasses, hlimit⟩]
        exact (ih (hc.of_passes hpasses hlimit) (by omega)).mpr hleaves
    · rw [if_neg hlt]
      exact hend (by have := hc.1; omega)

/-- The bytes encode the object, in which lists are nested at most `depth` deep. -/
def EncodesWithin (depth : Nat) (bs : Bytes) (object : Rlp) : Prop :=
  Encodes bs object ∧ object.depth ≤ depth

theorem forall₂_encodesWithin_iff {depth : Nat} {parts : List Bytes} {items : List Rlp} :
    List.Forall₂ (EncodesWithin depth) parts items ↔
      List.Forall₂ Encodes parts items ∧ ∀ item ∈ items, item.depth ≤ depth := by
  constructor
  · intro h
    induction h with
    | nil => exact ⟨.nil, by simp⟩
    | cons hpart _ ih => exact ⟨.cons hpart.1 ih.1, List.forall_mem_cons.mpr ⟨hpart.2, ih.2⟩⟩
  · rintro ⟨h, hdepth⟩
    induction h with
    | nil => exact .nil
    | cons hpart _ ih =>
      obtain ⟨hitem, hrest⟩ := List.forall_mem_cons.mp hdepth
      exact .cons ⟨hpart, hitem⟩ (ih hrest)

/-! ### Objects -/

/-- Reads the items of a list behind its header. -/
def readList (depth limit length : Nat) (c : Cursor) : Except Error (Rlp × Cursor) :=
  c.ensure length limit >>= fun _ =>
    match depth with
    | 0 => .error (.tooDeep c.position)
    | depth + 1 =>
      readItems (readItem depth (c.position + length)) (c.position + length) length [] c

/-- Reads what stands behind a header. -/
def readPayload (depth limit : Nat) : Head × Cursor → Except Error (Rlp × Cursor)
  | (.single b, c) => .ok (.bytes [b], c)
  | (.bytes length, c) => c.take length limit >>= fun r => .ok (.bytes r.1, r.2)
  | (.list length, c) => readList depth limit length c

theorem readItem_eq (depth limit : Nat) (c : Cursor) :
    readItem depth limit c = readHead limit c >>= readPayload depth limit := by
  rw [readItem]
  congr 1

/-- A list is read if its items are, with one level less. -/
theorem readList_eq_ok_iff {depth : Nat} (hc : c.Fits limit)
    (hitem : ∀ {d stop c item c'}, d + 1 = depth → c.Fits stop →
      (readItem d stop c = .ok (item, c') ↔
        ∃ bs, EncodesWithin d bs item ∧ c.Passes bs c' ∧ c'.position ≤ stop))
    (length : Nat) (object : Rlp) (c' : Cursor) :
    readList depth limit length c = .ok (object, c') ↔
      ∃ parts items, (List.Forall₂ Encodes parts items ∧ (Rlp.list items).depth ≤ depth) ∧
        object = .list items ∧ parts.flatten.length = length ∧
        c.Passes parts.flatten c' ∧ c'.position ≤ limit := by
  cases depth with
  | zero =>
    rw [readList, Except.bind_eq_ok_iff]
    constructor
    · rintro ⟨-, -, h⟩
      cases h
    · rintro ⟨parts, items, ⟨-, hdepth⟩, -⟩
      rw [Rlp.depth] at hdepth
      omega
  | succ depth =>
    rw [readList, Except.bind_eq_ok_iff]
    have hloop (hstop : c.position + length ≤ limit) :
        readItems (readItem depth (c.position + length)) (c.position + length) length [] c =
            .ok (object, c') ↔
          Leaves (EncodesWithin depth) (c.position + length) [] c object c' :=
      readItems_eq_ok_iff (fun _ _ h => h.1.length_pos) (hitem rfl)
        (hc.mono (Nat.le_add_right _ _) hstop) (by omega)
    simp only [depth_list_le_succ_iff, ← forall₂_encodesWithin_iff]
    constructor
    · rintro ⟨⟨⟩, hensure, h⟩
      have hstop := (Cursor.ensure_eq_ok_iff hc).mp hensure
      obtain ⟨parts, items, hitems, rfl, hpasses, hend⟩ := (hloop hstop).mp h
      have hposition := hpasses.position
      exact ⟨parts, items, hitems, rfl, by omega, hpasses, by omega⟩
    · rintro ⟨parts, items, hitems, rfl, rfl, hpasses, hlimit⟩
      have hstop := hpasses.position ▸ hlimit
      exact ⟨(), (Cursor.ensure_eq_ok_iff hc).mpr hstop,
        (hloop hstop).mpr ⟨parts, items, hitems, rfl, hpasses, hpasses.position⟩⟩

/-- The reader passes just the encodings of objects that are not nested deeper than it may go. -/
theorem readItem_eq_ok_iff {depth : Nat} (hc : c.Fits limit) :
    readItem depth limit c = .ok (object, c') ↔
      ∃ bs, EncodesWithin depth bs object ∧ c.Passes bs c' ∧ c'.position ≤ limit := by
  -- By induction on the nesting that is left. A list is read with one level less.
  induction depth using Nat.strong_induction_on generalizing limit c object c' with | _ depth ih
  have hlist {c₁ : Cursor} (hc₁ : c₁.Fits limit) :=
    readList_eq_ok_iff hc₁ fun hd hc => ih _ (Nat.lt_of_succ_le hd.le) hc
  rw [readItem_eq, Except.bind_eq_ok_iff]
  constructor
  · rintro ⟨⟨head, c₁⟩, hhead, h⟩
    obtain ⟨bs, hopens, hpasses, hlimit⟩ := (readHead_eq_ok_iff hc).mp hhead
    have hc₁ := hc.of_passes hpasses hlimit
    cases hopens with
    | @single b hb =>
      obtain ⟨rfl, rfl⟩ := Prod.mk.inj (Except.ok.inj h)
      exact ⟨[b], ⟨.single hb, Nat.zero_le _⟩, hpasses, hlimit⟩
    | @bytes length _ hbs =>
      obtain ⟨⟨payload, c₂⟩, htake, h⟩ := Except.bind_eq_ok_iff.mp h
      obtain ⟨rfl, rfl⟩ := Prod.mk.inj (Except.ok.inj h)
      obtain ⟨rfl, hpayload, hlimit'⟩ := (Cursor.take_eq_ok_iff hc₁).mp htake
      exact ⟨bs ++ payload, ⟨.bytes hbs, Nat.zero_le _⟩,
        Cursor.Passes.append_iff.mpr ⟨c₁, hpasses, hpayload⟩, hlimit'⟩
    | @list length _ hbs =>
      obtain ⟨parts, items, ⟨hitems, hdepth⟩, rfl, rfl, hpayload, hlimit'⟩ :=
        (hlist hc₁ length object c').mp h
      exact ⟨bs ++ parts.flatten, ⟨.list hbs hitems, hdepth⟩,
        Cursor.Passes.append_iff.mpr ⟨c₁, hpasses, hpayload⟩, hlimit'⟩
  · rintro ⟨bs, ⟨hencodes, hdepth⟩, hpasses, hlimit⟩
    cases hencodes with
    | @single b hb =>
      exact ⟨(.single b, c'), (readHead_eq_ok_iff hc).mpr ⟨[b], .single hb, hpasses, hlimit⟩, rfl⟩
    | @bytes head payload hhead =>
      obtain ⟨c₁, hfirst, hpayload⟩ := Cursor.Passes.append_iff.mp hpasses
      have hlimit₁ : c₁.position ≤ limit := by
        have := hpayload.position
        omega
      refine ⟨(.bytes payload.length, c₁),
        (readHead_eq_ok_iff hc).mpr ⟨head, .bytes hhead, hfirst, hlimit₁⟩,
        Except.bind_eq_ok_iff.mpr ⟨(payload, c'), ?_, rfl⟩⟩
      exact (Cursor.take_eq_ok_iff (hc.of_passes hfirst hlimit₁)).mpr ⟨rfl, hpayload, hlimit⟩
    | @list head parts items hhead hitems =>
      obtain ⟨c₁, hfirst, hpayload⟩ := Cursor.Passes.append_iff.mp hpasses
      have hlimit₁ : c₁.position ≤ limit := by
        have := hpayload.position
        omega
      refine ⟨(.list parts.flatten.length, c₁),
        (readHead_eq_ok_iff hc).mpr ⟨head, .list hhead, hfirst, hlimit₁⟩, ?_⟩
      exact (hlist (hc.of_passes hfirst hlimit₁) _ _ _).mpr
        ⟨parts, items, ⟨hitems, hdepth⟩, rfl, rfl, hpayload, hlimit⟩

/-- No encoding starts with another one. -/
theorem Encodes.eq_of_append_eq {as bs rest rest' : Bytes} {object' : Rlp} (h : Encodes as object)
    (h' : Encodes bs object') (heq : as ++ rest = bs ++ rest') : as = bs ∧ object = object' :=
  -- A reader that may go deep enough for both reads both.
  Cursor.eq_of_append_eq (readItem_eq_ok_iff (Cursor.start_fits _))
    ⟨h, Nat.le_max_left object.depth object'.depth⟩
    ⟨h', Nat.le_max_right object.depth object'.depth⟩ heq

/-- Bytes encode one object at most. -/
theorem Encodes.unique {bs : Bytes} {object' : Rlp} (h : Encodes bs object)
    (h' : Encodes bs object') : object = object' :=
  (h.eq_of_append_eq h' (rfl : bs ++ [] = bs ++ [])).2

theorem decode_eq (bs : Bytes) :
    decode bs = readItem maxDepth bs.length ⟨bs, 0⟩ >>= fun r =>
      if r.2.position < bs.length then .error (.trailingBytes (bs.length - r.2.position))
      else .ok r.1 := by
  rw [decode]
  congr 1

/-- Nothing else is accepted than encodings. -/
theorem encodes_of_decode {bs : Bytes} (h : decode bs = .ok object) :
    Encodes bs object ∧ object.depth ≤ maxDepth := by
  rw [decode_eq, Except.bind_eq_ok_iff] at h
  obtain ⟨⟨object', c⟩, hitem, h⟩ := h
  obtain ⟨part, hencodes, hpasses, hlimit⟩ := (readItem_eq_ok_iff (Cursor.start_fits bs)).mp hitem
  dsimp only at h hlimit
  split_ifs at h with hlt
  obtain rfl := Except.ok.inj h
  have hall : bs = part ++ c.rest := hpasses.rest
  have hposition : c.position = 0 + part.length := hpasses.position
  have hrest : c.rest = [] := List.eq_nil_of_length_eq_zero (by
    have := congrArg List.length hall
    rw [List.length_append] at this
    omega)
  rw [hrest, List.append_nil] at hall
  rw [hall]
  exact hencodes

/-- All encodings are accepted but those of objects that are nested too deep. -/
theorem Encodes.decode_eq {bs : Bytes} (h : Encodes bs object) (hdepth : object.depth ≤ maxDepth) :
    decode bs = .ok object := by
  have hpasses : Cursor.Passes ⟨bs, 0⟩ bs ⟨[], bs.length⟩ := by
    simpa only [List.append_nil] using Cursor.start_passes bs []
  have hitem := (readItem_eq_ok_iff (Cursor.start_fits bs)).mpr ⟨bs, ⟨h, hdepth⟩, hpasses, le_rfl⟩
  rw [Rlp.decode_eq, hitem, Except.ok_bind, if_neg (lt_irrefl _)]

/-- The reader accepts just the encodings of objects in which lists are nested at most 1024 deep,
where an outermost list counts as one. -/
theorem decode_eq_ok_iff_encodes (bs : Bytes) (object : Rlp) :
    decode bs = .ok object ↔ Encodes bs object ∧ object.depth ≤ 1024 :=
  ⟨encodes_of_decode, fun ⟨h, hdepth⟩ => h.decode_eq hdepth⟩

end ScoreDeploy.Rlp
