import ScoreDeploy.Proofs.Rlp.Extension

/-!
# The reader with every operation checked

`readItem` counts without bounds, and what it takes beyond the end is just shorter. In `Checked` the
bytes stay where they are, and the reader only knows its position and how many lists are open.
Before a number is taken from another one, a sum is formed, bytes are cut out, a byte is looked at
or a length is used, it is checked that this can be done, and at every step that the position lies
before the limit, the limit within the bytes, and no more than `maxDepth` lists are open. A check
that fails leaves no result at all. The checked reader always has one, and it is that of `decode`.
-/

namespace ScoreDeploy.Rlp

namespace Checked

/-- Where the reader stands. -/
structure State where
  /-- The number of bytes that were read. -/
  position : Nat
  /-- The number of lists that are open. -/
  depth : Nat

/-- A part of the reader. Where a check fails there is no result, not even an error. -/
abbrev Step (α : Type) := StateT State (ExceptT Error Option) α

variable {α β : Type}

/-- What a part of the reader comes to from a state. -/
def Step.outcome (step : Step α) (s : State) : Option (Except Error (α × State)) :=
  (step.run s).run

/-! ### Operations -/

/-- No result. -/
def stuck : Step α := fun _ => none

/-- Goes on only where the property holds. -/
def check (p : Prop) [Decidable p] : Step Unit :=
  if p then pure () else stuck

/-- A difference that is not below zero. -/
def difference (a b : Nat) : Step Nat := do
  check (b ≤ a)
  return a - b

/-- A sum that is not beyond a bound. -/
def sum (bound a b : Nat) : Step Nat := do
  check (a + b ≤ bound)
  return a + b

/-- The bytes from one place to another. -/
def slice (bytes : Bytes) (start stop : Nat) : Step Bytes := do
  check (start ≤ stop ∧ stop ≤ bytes.length)
  return (bytes.drop start).take (stop - start)

/-- The reader stands before its limit, the limit lies within the bytes, and the lists that are open
are not too many. -/
def State.IsSound (bytes : Bytes) (limit : Nat) (s : State) : Prop :=
  s.position ≤ limit ∧ limit ≤ bytes.length ∧ s.depth ≤ maxDepth

instance (bytes : Bytes) (limit : Nat) (s : State) : Decidable (s.IsSound bytes limit) :=
  inferInstanceAs (Decidable (_ ∧ _ ∧ _))

/-- The state, which has to be sound. -/
def sound (bytes : Bytes) (limit : Nat) : Step State := do
  let s ← get
  check (s.IsSound bytes limit)
  return s

/-! ### The reader -/

/-- Checks that so many bytes lie before the limit. -/
def ensure (bytes : Bytes) (count limit : Nat) : Step Unit := do
  let s ← sound bytes limit
  let available ← difference limit s.position
  if available < count then throw (.truncated s.position count available) else return ()

/-- Takes so many bytes, all before the limit. -/
def take (bytes : Bytes) (count limit : Nat) : Step Bytes := do
  ensure bytes count limit
  let s ← get
  let stop ← sum bytes.length s.position count
  set { s with position := stop }
  let _ ← sound bytes limit
  slice bytes s.position stop

/-- Reads a length of `size` bytes, which fits 64 bits. -/
def length (bytes : Bytes) (size limit : Nat) : Step Nat := do
  let digits ← take bytes size limit
  check (Bytes.toNatBE digits < 2 ^ 64)
  return Bytes.toNatBE digits

/-- Reads a header. -/
def head (bytes : Bytes) (limit : Nat) : Step Head := do
  let first ← take bytes 1 limit
  match first[0]? with
  | none => stuck
  | some b =>
    if b.toNat < 0x80 then return .single b
    else if b.toNat ≤ 0xb7 then return .bytes (← difference b.toNat 0x80)
    else if b.toNat ≤ 0xbf then
      return .bytes (← length bytes (← difference b.toNat 0xb7) limit)
    else if b.toNat ≤ 0xf7 then return .list (← difference b.toNat 0xc0)
    else return .list (← length bytes (← difference b.toNat 0xf7) limit)

/-- Reads items up to `stop`, of which there are no more than the first argument says. -/
def items (bytes : Bytes) (item : Step Rlp) (stop : Nat) : Nat → List Rlp → Step Rlp
  | 0, done => do
    let s ← sound bytes stop
    check (¬s.position < stop)
    return .list done.reverse
  | count + 1, done => do
    let s ← sound bytes stop
    if s.position < stop then
      let object ← item
      items bytes item stop count (object :: done)
    else return .list done.reverse

/-- Leaves a list behind its items. -/
def close (bytes : Bytes) (limit : Nat) (object : Rlp) : Step Rlp := do
  let s ← sound bytes limit
  let depth ← difference s.depth 1
  set { s with depth := depth }
  return object

/-- Reads the items of a list behind its header; `inner` reads an item up to a limit. -/
def list (bytes : Bytes) (inner : Nat → Step Rlp) (limit length : Nat) : Step Rlp := do
  ensure bytes length limit
  let s ← get
  if s.depth = maxDepth then throw (.tooDeep s.position)
  else
    let depth ← sum maxDepth s.depth 1
    let stop ← sum bytes.length s.position length
    set { s with depth := depth }
    close bytes limit (← items bytes (inner stop) stop length [])

/-- Reads what stands behind a header. -/
def payload (bytes : Bytes) (inner : Nat → Step Rlp) (limit : Nat) : Head → Step Rlp
  | .single b => return .bytes [b]
  | .bytes length => return .bytes (← take bytes length limit)
  | .list length => list bytes inner limit length

/-- Reads one object. The first argument is the number of lists that may still be opened. -/
def item (bytes : Bytes) : Nat → Nat → Step Rlp
  | 0, limit => head bytes limit >>= payload bytes (fun _ => stuck) limit
  | left + 1, limit => head bytes limit >>= payload bytes (item bytes left) limit

/-- Reads one object with nothing behind it. -/
def whole (bytes : Bytes) : Step Rlp := do
  let object ← item bytes maxDepth bytes.length
  let s ← sound bytes bytes.length
  let rest ← difference bytes.length s.position
  if rest = 0 then return object else throw (.trailingBytes rest)

/-- The object that the bytes encode, or why they encode none. -/
def decode (bytes : Bytes) : Option (Except Error Rlp) :=
  ((whole bytes).outcome ⟨0, 0⟩).map fun r => r.map Prod.fst

/-! ### Agreement -/

/-- Both come to the same error, or to the same result and at the same place, which lies before the
limit. -/
inductive Agrees (bytes : Bytes) (limit depth : Nat) :
    Option (Except Error (α × State)) → Except Error (α × Cursor) → Prop
  | error (e : Error) : Agrees bytes limit depth (some (.error e)) (.error e)
  | ok (a : α) {position : Nat} : position ≤ limit →
      Agrees bytes limit depth (some (.ok (a, ⟨position, depth⟩)))
        (.ok (a, ⟨bytes.drop position, position⟩))

variable {bytes : Bytes} {limit depth position : Nat} {s t : State}

theorem outcome_bind {x : Step α} {a : α} (h : x.outcome s = some (.ok (a, t)))
    (f : α → Step β) : (x >>= f).outcome s = (f a).outcome t := by
  simp only [Step.outcome, StateT.run_bind, ExceptT.run_bind] at h ⊢
  rw [h]
  rfl

theorem outcome_bind_error {x : Step α} {e : Error} (h : x.outcome s = some (.error e))
    (f : α → Step β) : (x >>= f).outcome s = some (.error e) := by
  simp only [Step.outcome, StateT.run_bind, ExceptT.run_bind] at h ⊢
  rw [h]
  rfl

theorem outcome_get : (get : Step State).outcome s = some (.ok (s, s)) := rfl

theorem outcome_set : (set t : Step Unit).outcome s = some (.ok ((), t)) := rfl

theorem outcome_check {p : Prop} [Decidable p] (h : p) :
    (check p).outcome s = some (.ok ((), s)) := by
  rw [check, if_pos h]
  rfl

theorem outcome_difference {a b : Nat} (h : b ≤ a) :
    (difference a b).outcome s = some (.ok (a - b, s)) :=
  outcome_bind (outcome_check h) _

theorem outcome_sum {bound a b : Nat} (h : a + b ≤ bound) :
    (sum bound a b).outcome s = some (.ok (a + b, s)) :=
  outcome_bind (outcome_check h) _

theorem outcome_slice {start stop : Nat} (h : start ≤ stop ∧ stop ≤ bytes.length) :
    (slice bytes start stop).outcome s = some (.ok ((bytes.drop start).take (stop - start), s)) :=
  outcome_bind (outcome_check h) _

theorem outcome_sound (h : s.IsSound bytes limit) :
    (sound bytes limit).outcome s = some (.ok (s, s)) := by
  rw [sound, outcome_bind outcome_get, outcome_bind (outcome_check h)]
  rfl

/-- The place in the bytes at which the state stands. -/
def State.cursor (bytes : Bytes) (s : State) : Cursor :=
  ⟨bytes.drop s.position, s.position⟩

theorem State.IsSound.fits (hs : s.IsSound bytes limit) : (s.cursor bytes).Fits limit := by
  obtain ⟨hposition, hlimit, -⟩ := hs
  refine ⟨hposition, ?_⟩
  show limit ≤ s.position + (bytes.drop s.position).length
  rw [List.length_drop]
  omega

theorem Agrees.bind {x : Step α} {y : Except Error (α × Cursor)} {f : α → Step β}
    {g : α × Cursor → Except Error (β × Cursor)} {limit' depth' : Nat}
    (h : Agrees bytes limit depth (x.outcome s) y)
    (hf : ∀ a (t : State), t.position ≤ limit → t.depth = depth → y = .ok (a, t.cursor bytes) →
      Agrees bytes limit' depth' ((f a).outcome t) (g (a, t.cursor bytes))) :
    Agrees bytes limit' depth' ((x >>= f).outcome s) (y >>= g) := by
  generalize hx : x.outcome s = r at h
  cases h with
  | error e =>
    rw [outcome_bind_error hx]
    exact .error e
  | @ok a position hposition =>
    rw [outcome_bind hx]
    exact hf a ⟨position, depth⟩ hposition rfl rfl

theorem agrees_pure (a : α) (hs : s.IsSound bytes limit) :
    Agrees bytes limit s.depth ((pure a : Step α).outcome s) (.ok (a, s.cursor bytes)) :=
  .ok a hs.1

theorem outcome_ensure (hs : s.IsSound bytes limit) (count : Nat) :
    (ensure bytes count limit).outcome s =
      some (((s.cursor bytes).ensure count limit).map fun _ => ((), s)) := by
  rw [ensure, outcome_bind (outcome_sound hs), outcome_bind (outcome_difference hs.1),
    Cursor.ensure]
  by_cases hlt : limit - s.position < count
  · rw [if_pos hlt, if_pos (show limit - (s.cursor bytes).position < count from hlt)]
    rfl
  · rw [if_neg hlt, if_neg (show ¬limit - (s.cursor bytes).position < count from hlt)]
    rfl

theorem agrees_take (hs : s.IsSound bytes limit) (count : Nat) :
    Agrees bytes limit s.depth ((take bytes count limit).outcome s)
      ((s.cursor bytes).take count limit) := by
  have hensure := outcome_ensure hs count
  rw [Cursor.take]
  cases hcursor : (s.cursor bytes).ensure count limit with
  | error e =>
    rw [hcursor] at hensure
    rw [take, outcome_bind_error hensure]
    exact .error e
  | ok _ =>
    -- The position moves on within the limit, so the state stays sound.
    have hcount : s.position + count ≤ limit := (Cursor.ensure_eq_ok_iff hs.fits).mp hcursor
    rw [hcursor] at hensure
    have hbound := hcount.trans hs.2.1
    have hthere : State.IsSound bytes limit ⟨s.position + count, s.depth⟩ := ⟨hcount, hs.2⟩
    rw [take, outcome_bind hensure, outcome_bind outcome_get, outcome_bind (outcome_sum hbound),
      outcome_bind outcome_set, outcome_bind (outcome_sound hthere),
      outcome_slice ⟨Nat.le_add_right _ _, hbound⟩, Nat.add_sub_cancel_left]
    show Agrees _ _ _ _ (Except.ok (_, ⟨(bytes.drop s.position).drop count, _⟩))
    rw [List.drop_drop]
    exact .ok _ hcount

/-- Eight bytes at most give a length that fits 64 bits. -/
theorem agrees_length {size : Nat} (hs : s.IsSound bytes limit) (hsize : size ≤ 8) :
    Agrees bytes limit s.depth ((length bytes size limit).outcome s)
      (readLength size limit (s.cursor bytes)) := by
  refine (agrees_take hs size).bind fun digits t ht hdepth htake => ?_
  obtain ⟨rfl, -⟩ := (Cursor.take_eq_ok_iff hs.fits).mp htake
  have hfits : Bytes.toNatBE digits < 2 ^ 64 :=
    calc Bytes.toNatBE digits < 256 ^ digits.length := Bytes.toNatBE_lt digits
      _ ≤ 256 ^ 8 := Nat.pow_le_pow_right (by decide) hsize
      _ = 2 ^ 64 := by decide
  rw [outcome_bind (outcome_check hfits), ← hdepth]
  exact agrees_pure _ ⟨ht, hs.2.1, hdepth.symm ▸ hs.2.2⟩

theorem agrees_head (hs : s.IsSound bytes limit) :
    Agrees bytes limit s.depth ((head bytes limit).outcome s)
      (readHead limit (s.cursor bytes)) := by
  refine (agrees_take hs 1).bind fun first t ht hdepth htake => ?_
  obtain ⟨b, rfl, -⟩ := (take_one_eq_ok_iff hs.fits).mp htake
  have hsound : t.IsSound bytes limit := ⟨ht, hs.2.1, hdepth.symm ▸ hs.2.2⟩
  have hb := b.toNat_lt
  rw [← hdepth]
  simp only [List.getElem?_cons_zero, Bytes.toNatBE_singleton, UInt8.ofNat_toNat]
  -- Both look for the same range of first bytes.
  split_ifs with h₁ h₂ h₃ h₄
  · exact agrees_pure _ hsound
  · rw [outcome_bind (outcome_difference (by omega))]
    exact agrees_pure _ hsound
  · rw [outcome_bind (outcome_difference (by omega))]
    refine (agrees_length hsound (by omega)).bind fun n u hu hdepth' _ => ?_
    rw [← hdepth']
    exact agrees_pure _ ⟨hu, hs.2.1, hdepth'.symm ▸ hsound.2.2⟩
  · rw [outcome_bind (outcome_difference (by omega))]
    exact agrees_pure _ hsound
  · rw [outcome_bind (outcome_difference (by omega))]
    refine (agrees_length hsound (by omega)).bind fun n u hu hdepth' _ => ?_
    rw [← hdepth']
    exact agrees_pure _ ⟨hu, hs.2.1, hdepth'.symm ▸ hsound.2.2⟩

/-- An item takes a byte at least and ends before its limit. -/
theorem position_of_readItem {left : Nat} {c c' : Cursor} {object : Rlp} (hc : c.Fits limit)
    (h : readItem left limit c = .ok (object, c')) :
    c.position < c'.position ∧ c'.position ≤ limit := by
  obtain ⟨bs, hencodes, hpasses, hlimit⟩ := (readItem_eq_ok_iff hc).mp h
  have hpos := hencodes.1.length_pos
  have hposition := hpasses.position
  exact ⟨by omega, hlimit⟩

/-- There are no more items than bytes, so that the loop comes to its end. -/
theorem agrees_items {left stop count : Nat} (done : List Rlp) {step : Step Rlp}
    (hitem : ∀ s : State, s.IsSound bytes stop → s.depth = depth →
      Agrees bytes stop depth (step.outcome s) (readItem left stop (s.cursor bytes)))
    (hs : s.IsSound bytes stop) (hdepth : s.depth = depth) (hcount : stop - s.position ≤ count) :
    Agrees bytes stop depth ((items bytes step stop count done).outcome s)
      (readItems (readItem left stop) stop count done (s.cursor bytes)) := by
  induction count generalizing s done with
  | zero =>
    have hend : ¬s.position < stop := by omega
    rw [items, outcome_bind (outcome_sound hs), outcome_bind (outcome_check hend), readItems,
      ← hdepth]
    exact agrees_pure _ hs
  | succ count ih =>
    rw [items, outcome_bind (outcome_sound hs), readItems_succ]
    by_cases hlt : s.position < stop
    · rw [if_pos hlt, if_pos (show (s.cursor bytes).position < stop from hlt)]
      refine (hitem s hs hdepth).bind fun object t ht htdepth hread => ?_
      have hprogress : s.position < t.position := (position_of_readItem hs.fits hread).1
      have hsound : t.IsSound bytes stop := ⟨ht, hs.2.1, htdepth.trans hdepth.symm ▸ hs.2.2⟩
      exact ih (object :: done) hsound htdepth (by omega)
    · rw [if_neg hlt, if_neg (show ¬(s.cursor bytes).position < stop from hlt), ← hdepth]
      exact agrees_pure _ hs

section

variable {left : Nat} {inner : Nat → Step Rlp}

/-- What is read inside of a list, if one more may be opened, is what the other reader reads. -/
def ReadsInside (bytes : Bytes) (inner : Nat → Step Rlp) (left depth : Nat) : Prop :=
  ∀ d, left = d + 1 → ∀ stop (t : State), t.IsSound bytes stop → t.depth = depth + 1 →
    Agrees bytes stop (depth + 1) ((inner stop).outcome t) (readItem d stop (t.cursor bytes))

/-- Behind its items a list closes the level that it has opened. -/
theorem agrees_close {stop : Nat} {x : Step Rlp} {y : Except Error (Rlp × Cursor)}
    (h : Agrees bytes stop (depth + 1) (x.outcome s) y) (hstop : stop ≤ limit)
    (hlimit : limit ≤ bytes.length) (hdepth : depth + 1 ≤ maxDepth) :
    Agrees bytes limit depth ((x >>= close bytes limit).outcome s) y := by
  generalize hx : x.outcome s = r at h
  cases h with
  | error e =>
    rw [outcome_bind_error hx]
    exact .error e
  | @ok object position hposition =>
    have hthere : State.IsSound bytes limit ⟨position, depth + 1⟩ :=
      ⟨hposition.trans hstop, hlimit, hdepth⟩
    rw [outcome_bind hx, close, outcome_bind (outcome_sound hthere),
      outcome_bind (outcome_difference (Nat.le_add_left 1 depth)), outcome_bind outcome_set]
    exact .ok object hthere.1

theorem agrees_list (hinner : ReadsInside bytes inner left s.depth) (hs : s.IsSound bytes limit)
    (hleft : s.depth + left = maxDepth) (length : Nat) :
    Agrees bytes limit s.depth ((list bytes inner limit length).outcome s)
      (readList left limit length (s.cursor bytes)) := by
  have hensure := outcome_ensure hs length
  rw [list, readList.eq_def]
  cases hcursor : (s.cursor bytes).ensure length limit with
  | error e =>
    rw [hcursor] at hensure
    rw [outcome_bind_error hensure]
    exact .error e
  | ok _ =>
    have hstop : s.position + length ≤ limit := (Cursor.ensure_eq_ok_iff hs.fits).mp hcursor
    rw [hcursor] at hensure
    rw [outcome_bind hensure, outcome_bind outcome_get]
    cases left with
    | zero =>
      rw [if_pos (show s.depth = maxDepth from hleft)]
      exact .error _
    | succ left =>
      have hopen : s.depth + 1 ≤ maxDepth := by omega
      have hbound := hstop.trans hs.2.1
      rw [if_neg (by omega), outcome_bind (outcome_sum hopen), outcome_bind (outcome_sum hbound),
        outcome_bind outcome_set]
      have hinside : State.IsSound bytes (s.position + length) ⟨s.position, s.depth + 1⟩ :=
        ⟨Nat.le_add_right _ _, hbound, hopen⟩
      have hcount : s.position + length - s.position ≤ length := by omega
      have hitems := agrees_items [] (hinner left rfl _) hinside rfl hcount
      exact agrees_close hitems hstop hs.2.1 hopen

theorem agrees_payload (hinner : ReadsInside bytes inner left s.depth) (hs : s.IsSound bytes limit)
    (hleft : s.depth + left = maxDepth) (head : Head) :
    Agrees bytes limit s.depth ((payload bytes inner limit head).outcome s)
      (readPayload left limit (head, s.cursor bytes)) := by
  cases head with
  | single b => exact agrees_pure _ hs
  | bytes length =>
    refine (agrees_take hs length).bind fun payload t ht hdepth _ => ?_
    rw [← hdepth]
    exact agrees_pure _ ⟨ht, hs.2.1, hdepth.symm ▸ hs.2.2⟩
  | list length => exact agrees_list hinner hs hleft length

end

theorem agrees_item {left : Nat} (hs : s.IsSound bytes limit) (hleft : s.depth + left = maxDepth) :
    Agrees bytes limit s.depth ((item bytes left limit).outcome s)
      (readItem left limit (s.cursor bytes)) := by
  -- By induction on the lists that may still be opened; soundness is what every part keeps.
  induction left generalizing s limit with
  | zero =>
    rw [item, readItem_eq]
    refine (agrees_head hs).bind fun head t ht hdepth _ => ?_
    have hinner : ReadsInside bytes (fun _ => stuck) 0 t.depth := fun d hd => nomatch hd
    rw [← hdepth] at hleft ⊢
    exact agrees_payload hinner ⟨ht, hs.2.1, hdepth.symm ▸ hs.2.2⟩ hleft head
  | succ left ih =>
    rw [item, readItem_eq]
    refine (agrees_head hs).bind fun head t ht hdepth _ => ?_
    rw [← hdepth] at hleft ⊢
    have hinner : ReadsInside bytes (item bytes left) (left + 1) t.depth := by
      rintro d hd stop u hu hopen
      obtain rfl := Nat.succ.inj hd
      rw [← hopen]
      exact ih hu (by omega)
    exact agrees_payload hinner ⟨ht, hs.2.1, hdepth.symm ▸ hs.2.2⟩ hleft head

theorem outcome_item {left : Nat} {object : Rlp} {c : Cursor} (hs : s.IsSound bytes limit)
    (hleft : s.depth + left = maxDepth)
    (h : readItem left limit (s.cursor bytes) = .ok (object, c)) :
    (item bytes left limit).outcome s = some (.ok (object, ⟨c.position, s.depth⟩)) := by
  have hagrees := agrees_item hs hleft
  rw [h] at hagrees
  generalize (item bytes left limit).outcome s = r at hagrees ⊢
  cases hagrees
  rfl

/-- The checked reader never gets stuck. -/
theorem decode_eq (bytes : Bytes) : decode bytes = some (Rlp.decode bytes) := by
  let start : State := ⟨0, 0⟩
  have hs : start.IsSound bytes bytes.length := ⟨Nat.zero_le _, le_rfl, Nat.zero_le _⟩
  have hitem := agrees_item hs (Nat.zero_add maxDepth)
  rw [decode, Rlp.decode_eq, whole]
  change Agrees bytes _ _ _ (readItem maxDepth bytes.length ⟨bytes, 0⟩) at hitem
  generalize readItem maxDepth bytes.length ⟨bytes, 0⟩ = r at hitem ⊢
  generalize hx : (item bytes maxDepth bytes.length).outcome start = x at hitem
  cases hitem with
  | error e =>
    rw [outcome_bind_error hx]
    rfl
  | @ok object position hposition =>
    have hthere : State.IsSound bytes bytes.length ⟨position, 0⟩ :=
      ⟨hposition, le_rfl, Nat.zero_le _⟩
    rw [outcome_bind hx, outcome_bind (outcome_sound hthere),
      outcome_bind (outcome_difference hposition), Except.ok_bind]
    dsimp only
    by_cases hlt : position < bytes.length
    · rw [if_neg (by omega), if_pos hlt]
      rfl
    · rw [if_pos (by omega), if_neg hlt]
      rfl

end Checked

/-! ### Safety -/

variable {bytes : Bytes}

theorem Checked.of_item {limit : Nat} {s t : Checked.State} {object : Rlp}
    (hs : s.IsSound bytes limit)
    (h : (Checked.item bytes (maxDepth - s.depth) limit).outcome s = some (.ok (object, t))) :
    s.position < t.position ∧ t.position ≤ limit ∧ t.depth = s.depth := by
  have hagrees := agrees_item hs (Nat.add_sub_cancel' hs.2.2)
  rw [h] at hagrees
  generalize hread : readItem (maxDepth - s.depth) limit (s.cursor bytes) = r at hagrees
  cases hagrees with
  | ok _ hposition =>
    obtain ⟨hprogress, hlimit⟩ := position_of_readItem hs.fits hread
    exact ⟨hprogress, hlimit, rfl⟩

/-- No check of the reader fails, whatever the bytes are, and it comes to an end. -/
theorem decode_checked (bytes : Bytes) :
    Checked.decode bytes = some (decode bytes) ∧
    (∀ limit (s : Checked.State), s.IsSound bytes limit → ∀ object t,
      (Checked.item bytes (maxDepth - s.depth) limit).outcome s = some (.ok (object, t)) →
        s.position < t.position ∧ t.position ≤ limit ∧ t.depth = s.depth) ∧
    (∀ offset needed available, decode bytes = .error (.truncated offset needed available) →
      available < needed ∧ offset + available ≤ bytes.length) ∧
    (∀ offset, decode bytes = .error (.tooDeep offset) → offset ≤ bytes.length) ∧
    ∀ count, decode bytes = .error (.trailingBytes count) → 0 < count ∧ count < bytes.length := by
  refine ⟨Checked.decode_eq bytes, fun limit s hs object t => Checked.of_item hs, ?_, ?_, ?_⟩
  · intro offset needed available h
    rcases decode_eq_error_iff.mp h with hitem | ⟨_, _, _, _, h⟩
    · cases stopsWithin_of_readItem (Cursor.start_fits bytes) hitem with
      | truncated hneeded havailable => exact ⟨hneeded, havailable⟩
    · cases h
  · intro offset h
    rcases decode_eq_error_iff.mp h with hitem | ⟨_, _, _, _, h⟩
    · cases stopsWithin_of_readItem (Cursor.start_fits bytes) hitem with
      | tooDeep hoffset => exact hoffset
    · cases h
  · intro count h
    obtain ⟨hpos, hlt, -⟩ := decode_take_of_trailingBytes h
    exact ⟨hpos, hlt⟩

/-- A length of eight bytes of ones, one list too many, and an item inside of a list. -/
theorem decode_checked_hostile :
    (decode [0xff, 0xff, 0xff, 0xff, 0xff, 0xff, 0xff, 0xff, 0xff, 0x00] =
        .error (.truncated 9 (2 ^ 64 - 1) 1) ∧ 1 < 2 ^ 64 - 1 ∧ 9 + 1 ≤ 10) ∧
      (∃ offset, decode (tower 1024).encode = .error (.tooDeep offset) ∧
        offset ≤ (tower 1024).encode.length) ∧
      (decode [0x01, 0x02] = .error (.trailingBytes 1) ∧ 0 < 1 ∧ 1 < 2) ∧
      ((Checked.item [0xc2, 0x81, 0x80] (maxDepth - 1) 3).outcome ⟨1, 1⟩ =
        some (.ok (.bytes [0x80], ⟨3, 1⟩)) ∧ 1 < 3) := by
  have hlong : decode [0xff, 0xff, 0xff, 0xff, 0xff, 0xff, 0xff, 0xff, 0xff, 0x00] =
      .error (.truncated 9 (2 ^ 64 - 1) 1) := by
    cbv
  have htwo : decode [0x01, 0x02] = .error (.trailingBytes 1) := by
    cbv
  have hinside : (Checked.item [0xc2, 0x81, 0x80] (maxDepth - 1) 3).outcome ⟨1, 1⟩ =
      some (.ok (.bytes [0x80], ⟨3, 1⟩)) := by
    have hread : readItem (maxDepth - 1) 3 ⟨[0x81, 0x80], 1⟩ = .ok (.bytes [0x80], ⟨[], 3⟩) := by
      cbv
    have hsound : Checked.State.IsSound [0xc2, 0x81, 0x80] 3 ⟨1, 1⟩ := by decide
    exact Checked.outcome_item hsound rfl hread
  obtain ⟨offset, hdeep⟩ := decode_encode_tower_eq_tooDeep (le_refl 1024) (by decide)
  refine ⟨⟨hlong, (decode_checked _).2.2.1 _ _ _ hlong⟩,
    ⟨offset, hdeep, (decode_checked _).2.2.2.1 offset hdeep⟩,
    ⟨htwo, (decode_checked _).2.2.2.2 1 htwo⟩, hinside, ?_⟩
  exact ((decode_checked _).2.1 3 ⟨1, 1⟩ (by decide) _ _ hinside).1

end ScoreDeploy.Rlp
