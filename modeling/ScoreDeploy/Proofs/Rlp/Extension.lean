import ScoreDeploy.Proofs.Rlp.Nesting

/-!
# Cutting and extending encodings

More bytes behind what is read, and a limit further away, change nothing in a run of the reader that
does not run into its limit: only the header of the outermost object ever sees the end of the bytes,
and what lies inside a list sees the end of that list. So an encoding that is cut is reported as
truncated, bytes that follow one are counted, and no encoding starts with another one.
-/

namespace ScoreDeploy.Rlp

variable {α β : Type} {s : Bytes} {c c' : Cursor} {depth limit limit' stop : Nat} {object : Rlp}

/-- The bytes, or the limit, end before what is asked for. -/
def Error.IsCut (e : Error) : Prop :=
  ∃ offset needed available, e = .truncated offset needed available

/-- The cursor with more bytes behind it. -/
def Cursor.append (c : Cursor) (s : Bytes) : Cursor :=
  ⟨c.rest ++ s, c.position⟩

/-- The second run ends as the first one, with more bytes left over, unless the first one is cut. -/
def Extends (s : Bytes) (r r' : Except Error (α × Cursor)) : Prop :=
  match r with
  | .ok (a, c) => r' = .ok (a, c.append s)
  | .error e => e.IsCut ∨ r' = .error e

theorem Extends.bind {r r' : Except Error (α × Cursor)}
    {f f' : α × Cursor → Except Error (β × Cursor)} (h : Extends s r r')
    (hf : ∀ a c, r = .ok (a, c) → Extends s (f (a, c)) (f' (a, c.append s))) :
    Extends s (r >>= f) (r' >>= f') := by
  cases r with
  | error e =>
    rcases h with hcut | rfl
    · exact .inl hcut
    · exact .inr rfl
  | ok p =>
    obtain ⟨a, c⟩ := p
    obtain rfl := h
    exact hf a c rfl

/-! ### Headers -/

/-- Either too few bytes are there, or they are there with any limit further away. -/
theorem ensure_append (c : Cursor) (count : Nat) (hle : limit ≤ limit') (s : Bytes) :
    (∃ e, c.ensure count limit = .error e ∧ e.IsCut) ∨
      c.ensure count limit = .ok () ∧ (c.append s).ensure count limit' = .ok () := by
  by_cases hlt : limit - c.position < count
  · exact .inl ⟨_, if_pos hlt, _, _, _, rfl⟩
  · have hfar : ¬limit' - (c.append s).position < count := by
      change ¬limit' - c.position < count
      omega
    exact .inr ⟨if_neg hlt, if_neg hfar⟩

theorem extends_take (hc : c.Fits limit) (hle : limit ≤ limit') (count : Nat) :
    Extends s (c.take count limit) ((c.append s).take count limit') := by
  rw [Cursor.take, Cursor.take]
  rcases ensure_append c count hle s with ⟨e, he, hcut⟩ | ⟨hok, hok'⟩
  · rw [he]
    exact .inl hcut
  · rw [hok, hok']
    have hcount : count ≤ c.rest.length := by
      have := (Cursor.ensure_eq_ok_iff hc).mp hok
      have := hc.2
      omega
    show Except.ok ((c.rest ++ s).take count, _) = _
    rw [List.take_append_of_le_length hcount, Cursor.append, List.drop_append_of_le_length hcount]
    rfl

theorem extends_readLength (hc : c.Fits limit) (hle : limit ≤ limit') (size : Nat) :
    Extends s (readLength size limit c) (readLength size limit' (c.append s)) :=
  (extends_take hc hle size).bind fun _ _ _ => rfl

theorem fits_of_take {count : Nat} {bs : Bytes} (hc : c.Fits limit)
    (h : c.take count limit = .ok (bs, c')) : c'.Fits limit := by
  obtain ⟨-, hpasses, hlimit⟩ := (Cursor.take_eq_ok_iff hc).mp h
  exact hc.of_passes hpasses hlimit

theorem fits_of_readHead {head : Head} (hc : c.Fits limit)
    (h : readHead limit c = .ok (head, c')) : c'.Fits limit := by
  obtain ⟨_, -, hpasses, hlimit⟩ := (readHead_eq_ok_iff hc).mp h
  exact hc.of_passes hpasses hlimit

theorem extends_readHead (hc : c.Fits limit) (hle : limit ≤ limit') :
    Extends s (readHead limit c) (readHead limit' (c.append s)) := by
  refine (extends_take hc hle 1).bind fun first c₁ hfirst => ?_
  have hlength (size : Nat) : Extends s (readLength size limit c₁) (readLength size limit' _) :=
    extends_readLength (fits_of_take hc hfirst) hle size
  -- The same range of first bytes is met in both runs.
  dsimp only
  split_ifs
  · rfl
  · rfl
  · generalize Bytes.toNatBE first - 0xb7 = size
    exact Extends.bind (hlength size) fun _ _ _ => rfl
  · rfl
  · generalize Bytes.toNatBE first - 0xf7 = size
    exact Extends.bind (hlength size) fun _ _ _ => rfl

/-! ### Items -/

theorem fits_of_readItem (hc : c.Fits limit) (h : readItem depth limit c = .ok (object, c')) :
    c'.Fits limit := by
  obtain ⟨_, -, hpasses, hlimit⟩ := (readItem_eq_ok_iff hc).mp h
  exact hc.of_passes hpasses hlimit

theorem readItems_succ (read : Cursor → Except Error (Rlp × Cursor)) (stop count : Nat)
    (done : List Rlp) (c : Cursor) :
    readItems read stop (count + 1) done c =
      if c.position < stop then
        read c >>= fun r => readItems read stop count (r.1 :: done) r.2
      else .ok (.list done.reverse, c) := by
  rw [readItems]
  split
  · cases read c <;> rfl
  · rfl

/-- The items of a list are read up to the same place in both runs. -/
theorem extends_readItems
    (hread : ∀ c, c.Fits stop →
      Extends s (readItem depth stop c) (readItem depth stop (c.append s)))
    (count : Nat) (done : List Rlp) (hc : c.Fits stop) :
    Extends s (readItems (readItem depth stop) stop count done c)
      (readItems (readItem depth stop) stop count done (c.append s)) := by
  induction count generalizing done c with
  | zero => rfl
  | succ count ih =>
    rw [readItems_succ, readItems_succ]
    by_cases hlt : c.position < stop
    · rw [if_pos hlt, if_pos (show (c.append s).position < stop from hlt)]
      refine (hread c hc).bind fun item c₁ hfirst => ?_
      exact ih (item :: done) (fits_of_readItem hc hfirst)
    · rw [if_neg hlt, if_neg (show ¬(c.append s).position < stop from hlt)]
      rfl

theorem extends_readItem (hc : c.Fits limit) (hle : limit ≤ limit') :
    Extends s (readItem depth limit c) (readItem depth limit' (c.append s)) := by
  -- By induction on the nesting that is left. The limit moves for the outermost object only.
  induction depth using Nat.strong_induction_on generalizing c limit limit' with | _ depth ih
  rw [readItem_eq, readItem_eq]
  refine (extends_readHead hc hle).bind fun head c₁ hhead => ?_
  have hc₁ := fits_of_readHead hc hhead
  cases head with
  | single b => rfl
  | bytes length => exact (extends_take hc₁ hle length).bind fun _ _ _ => rfl
  | list length =>
    simp only [readPayload, readList.eq_def]
    rcases ensure_append c₁ length hle s with ⟨e, he, hcut⟩ | ⟨hok, hok'⟩
    · rw [he]
      exact .inl hcut
    · rw [hok, hok']
      cases depth with
      | zero => exact .inr rfl
      | succ depth =>
        have hstop := (Cursor.ensure_eq_ok_iff hc₁).mp hok
        exact extends_readItems (fun c hc => ih depth (Nat.lt_succ_self depth) hc le_rfl) length []
          (hc₁.mono (Nat.le_add_right _ _) hstop)

/-! ### Errors of the reader -/

/-- Something was asked for that is not there, within that many bytes, or lies too deep. -/
inductive Error.StopsWithin (size : Nat) : Error → Prop
  | truncated {offset needed available : Nat} : available < needed → offset + available ≤ size →
      StopsWithin size (.truncated offset needed available)
  | tooDeep {offset : Nat} : offset ≤ size → StopsWithin size (.tooDeep offset)

theorem Error.StopsWithin.mono {e : Error} (h : e.StopsWithin stop) (hle : stop ≤ limit) :
    e.StopsWithin limit := by
  cases h with
  | truncated hneeded havailable => exact .truncated hneeded (havailable.trans hle)
  | tooDeep hoffset => exact .tooDeep (hoffset.trans hle)

variable {e : Error}

theorem stopsWithin_of_ensure {count : Nat} (hc : c.Fits limit)
    (h : c.ensure count limit = .error e) : e.StopsWithin limit := by
  have := hc.1
  rw [Cursor.ensure] at h
  split at h
  · obtain rfl := Except.error.inj h
    exact .truncated ‹_› (by omega)
  · cases h

theorem stopsWithin_of_take {count : Nat} (hc : c.Fits limit)
    (h : c.take count limit = .error e) : e.StopsWithin limit := by
  rcases Except.bind_eq_error_iff.mp h with hensure | ⟨_, _, h⟩
  · exact stopsWithin_of_ensure hc hensure
  · cases h

theorem stopsWithin_of_readLength {size : Nat} (hc : c.Fits limit)
    (h : readLength size limit c = .error e) : e.StopsWithin limit := by
  rcases Except.bind_eq_error_iff.mp h with htake | ⟨_, _, h⟩
  · exact stopsWithin_of_take hc htake
  · cases h

theorem stopsWithin_of_readHead (hc : c.Fits limit) (h : readHead limit c = .error e) :
    e.StopsWithin limit := by
  rcases Except.bind_eq_error_iff.mp h with htake | ⟨⟨first, c₁⟩, hfirst, h⟩
  · exact stopsWithin_of_take hc htake
  · have hc₁ := fits_of_take hc hfirst
    dsimp only at h
    split_ifs at h
    · cases h
    · cases h
    · rcases Except.bind_eq_error_iff.mp h with hlength | ⟨_, _, h⟩
      · exact stopsWithin_of_readLength hc₁ hlength
      · cases h
    · cases h
    · rcases Except.bind_eq_error_iff.mp h with hlength | ⟨_, _, h⟩
      · exact stopsWithin_of_readLength hc₁ hlength
      · cases h

theorem stopsWithin_of_readItems {count : Nat} {done : List Rlp}
    (hread : ∀ c e, c.Fits stop → readItem depth stop c = .error e → e.StopsWithin stop)
    (hc : c.Fits stop) (h : readItems (readItem depth stop) stop count done c = .error e) :
    e.StopsWithin stop := by
  induction count generalizing done c with
  | zero => cases h
  | succ count ih =>
    rw [readItems_succ] at h
    split at h
    · rcases Except.bind_eq_error_iff.mp h with hitem | ⟨⟨item, c₁⟩, hitem, h⟩
      · exact hread _ _ hc hitem
      · exact ih (fits_of_readItem hc hitem) h
    · cases h

theorem stopsWithin_of_readItem (hc : c.Fits limit) (h : readItem depth limit c = .error e) :
    e.StopsWithin limit := by
  induction depth using Nat.strong_induction_on generalizing c limit e with | _ depth ih
  rw [readItem_eq] at h
  rcases Except.bind_eq_error_iff.mp h with hhead | ⟨⟨head, c₁⟩, hhead, h⟩
  · exact stopsWithin_of_readHead hc hhead
  have hc₁ := fits_of_readHead hc hhead
  cases head with
  | single b => cases h
  | bytes length =>
    rcases Except.bind_eq_error_iff.mp h with htake | ⟨_, _, h⟩
    · exact stopsWithin_of_take hc₁ htake
    · cases h
  | list length =>
    rcases Except.bind_eq_error_iff.mp h with hensure | ⟨⟨⟩, hensure, h⟩
    · exact stopsWithin_of_ensure hc₁ hensure
    have hstop := (Cursor.ensure_eq_ok_iff hc₁).mp hensure
    cases depth with
    | zero =>
      obtain rfl := Except.error.inj h
      exact .tooDeep hc₁.1
    | succ depth =>
      -- What the items say within their list they say within the bytes around it.
      refine Error.StopsWithin.mono ?_ hstop
      exact stopsWithin_of_readItems (fun c e => ih depth (Nat.lt_succ_self depth))
        (hc₁.mono (Nat.le_add_right _ _) hstop) h

/-! ### Whole byte strings -/

variable {bs part more : Bytes}

/-- The reader stops inside of an object, or reads one and finds something behind it. -/
theorem decode_eq_error_iff : decode bs = .error e ↔
    readItem maxDepth bs.length ⟨bs, 0⟩ = .error e ∨
      ∃ object c, readItem maxDepth bs.length ⟨bs, 0⟩ = .ok (object, c) ∧
        c.position < bs.length ∧ e = .trailingBytes (bs.length - c.position) := by
  rw [decode_eq, Except.bind_eq_error_iff]
  refine or_congr_right ?_
  constructor
  · rintro ⟨⟨object, c⟩, hitem, h⟩
    dsimp only at h
    split_ifs at h with hlt
    exact ⟨object, c, hitem, hlt, (Except.error.inj h).symm⟩
  · rintro ⟨object, c, hitem, hlt, rfl⟩
    exact ⟨(object, c), hitem, if_pos hlt⟩

theorem decode_eq_ok_iff : decode bs = .ok object ↔
    ∃ c, readItem maxDepth bs.length ⟨bs, 0⟩ = .ok (object, c) ∧ c.position = bs.length := by
  rw [decode_eq, Except.bind_eq_ok_iff]
  constructor
  · rintro ⟨⟨object', c⟩, hitem, h⟩
    have hlimit := (fits_of_readItem (Cursor.start_fits bs) hitem).1
    dsimp only at h
    split_ifs at h with hlt
    obtain rfl := Except.ok.inj h
    exact ⟨c, hitem, by omega⟩
  · rintro ⟨c, hitem, hend⟩
    exact ⟨(object, c), hitem, if_neg hend.ge.not_gt⟩

theorem extends_start (bs more : Bytes) :
    Extends more (readItem maxDepth bs.length ⟨bs, 0⟩)
      (readItem maxDepth (bs ++ more).length ⟨bs ++ more, 0⟩) :=
  extends_readItem (Cursor.start_fits bs) (by simp)

/-- Bytes behind an encoding are counted. -/
theorem decode_append (h : decode bs = .ok object) (hmore : more ≠ []) :
    decode (bs ++ more) = .error (.trailingBytes more.length) := by
  obtain ⟨c, hitem, hend⟩ := decode_eq_ok_iff.mp h
  have hpos := List.length_pos_iff.mpr hmore
  have hextends := extends_start bs more
  rw [hitem] at hextends
  refine decode_eq_error_iff.mpr (.inr ⟨object, c.append more, hextends, ?_, ?_⟩)
  · show c.position < _
    rw [List.length_append]
    omega
  · show _ = Error.trailingBytes (_ - c.position)
    rw [List.length_append, hend, Nat.add_sub_cancel_left]

/-- What lies too deep lies too deep whatever follows. -/
theorem decode_append_of_tooDeep {offset : Nat} (h : decode bs = .error (.tooDeep offset))
    (more : Bytes) : decode (bs ++ more) = .error (.tooDeep offset) := by
  rcases decode_eq_error_iff.mp h with hitem | ⟨_, _, _, _, h⟩
  · have hextends := extends_start bs more
    rw [hitem] at hextends
    rcases hextends with ⟨_, _, _, h⟩ | hitem'
    · cases h
    · exact decode_eq_error_iff.mpr (.inl hitem')
  · cases h

/-- An encoding that lacks something at its end is cut. -/
theorem isCut_of_decode_append (h : decode (part ++ more) = .ok object) (hmore : more ≠ []) :
    ∃ e, decode part = .error e ∧ e.IsCut := by
  have hpos := List.length_pos_iff.mpr hmore
  obtain ⟨c, hitem, hend⟩ := decode_eq_ok_iff.mp h
  have hextends := extends_start part more
  cases hpart : readItem maxDepth part.length ⟨part, 0⟩ with
  | error e =>
    rw [hpart, hitem] at hextends
    rcases hextends with hcut | h
    · exact ⟨e, decode_eq_error_iff.mpr (.inl hpart), hcut⟩
    · cases h
  | ok p =>
    -- The longer run would have ended inside of the shorter bytes, too.
    obtain ⟨object', c'⟩ := p
    have hlimit := (fits_of_readItem (Cursor.start_fits part) hpart).1
    rw [hpart, hitem] at hextends
    obtain ⟨-, rfl⟩ := Prod.mk.inj (Except.ok.inj hextends)
    change c'.position = (part ++ more).length at hend
    rw [List.length_append] at hend
    omega

/-- What stands in front of trailing bytes is an encoding. -/
theorem decode_take_of_trailingBytes {count : Nat} (h : decode bs = .error (.trailingBytes count)) :
    0 < count ∧ count < bs.length ∧
      ∃ object, decode (bs.take (bs.length - count)) = .ok object := by
  rcases decode_eq_error_iff.mp h with hitem | ⟨object, c, hitem, hlt, heq⟩
  · nomatch stopsWithin_of_readItem (Cursor.start_fits bs) hitem
  · obtain ⟨part, ⟨hencodes, hdepth⟩, hpasses, -⟩ :=
      (readItem_eq_ok_iff (Cursor.start_fits bs)).mp hitem
    have hpos := hencodes.length_pos
    have hrest : bs = part ++ c.rest := hpasses.rest
    have hposition : c.position = part.length := hpasses.position.trans (Nat.zero_add _)
    obtain rfl := Error.trailingBytes.inj heq
    refine ⟨by omega, by omega, object, ?_⟩
    have hfront : bs.take (bs.length - (bs.length - c.position)) = part := by
      rw [Nat.sub_sub_self hlt.le, hposition]
      conv_lhs => rw [hrest]
      exact List.take_left
    rw [hfront]
    exact hencodes.decode_eq hdepth

/-- Cutting an encoding anywhere makes it truncated, and bytes behind it are counted, so that no
encoding starts with another one. In front of trailing bytes there is an encoding. Lists that lie
too deep are reported in the same way whatever follows. -/
theorem decode_of_cut_or_extended (bs : Bytes) :
    (∀ object, decode bs = .ok object →
      (∀ part, part <+: bs → part ≠ bs → ∃ offset needed available,
        decode part = .error (.truncated offset needed available)) ∧
      (∀ more, more ≠ [] → decode (bs ++ more) = .error (.trailingBytes more.length)) ∧
      ∀ bs' object', decode bs' = .ok object' → bs <+: bs' → bs = bs') ∧
    (∀ count, decode bs = .error (.trailingBytes count) → 0 < count ∧ count < bs.length ∧
      ∃ object, decode (bs.take (bs.length - count)) = .ok object) ∧
    ∀ offset, decode bs = .error (.tooDeep offset) →
      ∀ more, decode (bs ++ more) = .error (.tooDeep offset) := by
  refine ⟨fun object h => ⟨?_, fun more => decode_append h, ?_⟩,
    fun count => decode_take_of_trailingBytes, fun offset => decode_append_of_tooDeep⟩
  · rintro part ⟨more, rfl⟩ hne
    have hmore : more ≠ [] := by
      rintro rfl
      exact hne (List.append_nil part).symm
    obtain ⟨_, hpart, offset, needed, available, rfl⟩ := isCut_of_decode_append h hmore
    exact ⟨offset, needed, available, hpart⟩
  · rintro _ object' h' ⟨more, rfl⟩
    by_contra hne
    have hmore : more ≠ [] := by
      rintro rfl
      exact hne (List.append_nil bs).symm
    rw [decode_append h hmore] at h'
    cases h'

/-- A list of two items is cut inside of the second one, and is followed by an empty list; a list is
put behind one that lies too deep. -/
theorem decode_of_cut_or_extended_pair :
    (∃ offset needed available,
      decode [0xc3, 0x01, 0x81] = .error (.truncated offset needed available)) ∧
    decode [0xc3, 0x01, 0x81, 0x80, 0xc0] = .error (.trailingBytes 1) ∧
    (∃ object, decode [0xc3, 0x01, 0x81, 0x80] = .ok object) ∧
    ∃ offset, decode (tower 1024).encode = .error (.tooDeep offset) ∧
      decode ((tower 1024).encode ++ [0xc0]) = .error (.tooDeep offset) := by
  have hpair : decode [0xc3, 0x01, 0x81, 0x80] = .ok (.list [.bytes [0x01], .bytes [0x80]]) := by
    cbv
  have htrailing : decode [0xc3, 0x01, 0x81, 0x80, 0xc0] = .error (.trailingBytes 1) := by
    cbv
  obtain ⟨hcut, hmore, -⟩ := (decode_of_cut_or_extended [0xc3, 0x01, 0x81, 0x80]).1 _ hpair
  obtain ⟨offset, hdeep⟩ := decode_encode_tower_eq_tooDeep (le_refl 1024) (by decide)
  refine ⟨hcut [0xc3, 0x01, 0x81] ⟨[0x80], rfl⟩ (by decide), hmore [0xc0] (by decide), ?_,
    offset, hdeep, (decode_of_cut_or_extended _).2.2 offset hdeep [0xc0]⟩
  exact ((decode_of_cut_or_extended _).2.1 1 htrailing).2.2

end ScoreDeploy.Rlp
