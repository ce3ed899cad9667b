import Mathlib.Tactic.SplitIfs
import ScoreDeploy.FileSystem.Basic

/-!
# Where paths lead

If a path leads anywhere, its text tells where: an empty component or a single point stays, two
points go up, and any other name goes down. `Path.placeFrom` follows a path in this way. The
places of joined paths, and the parent of a joined path, come out as the names suggest, as long as
the names are names of entries.
-/

namespace ScoreDeploy

/-! ### Parts -/

namespace Text

variable {separates : Char → Bool}

theorem parts_of_forall {cs : List Char} (h : ∀ c ∈ cs, separates c = false) :
    parts separates cs = [cs] := by
  induction cs with
  | nil => rfl
  | cons c cs ih =>
    rw [List.forall_mem_cons] at h
    simp [parts, h.1, ih h.2]

/-- A separator separates what stands before it from what stands after it. -/
theorem parts_append_cons {c : Char} (hc : separates c = true) (cs ds : List Char) :
    parts separates (cs ++ c :: ds) = parts separates cs ++ parts separates ds := by
  induction cs with
  | nil => simp [parts, hc]
  | cons d cs ih =>
    by_cases hd : separates d = true
    · simp [parts, hd, ih]
    · obtain ⟨first, others, hparts⟩ := List.exists_cons_of_ne_nil (parts_ne_nil separates cs)
      simp [parts, hd, ih, hparts]

end Text

/-! ### Following names -/

namespace Place

/-- Where a component of a path leads, if it can be followed. -/
def move (place : Place) (name : String) : Place :=
  if name = "" ∨ name = "." then place
  else if name = ".." then place.parent
  else place.child name

@[simp]
theorem child_inj {place place' : Place} {name name' : String} :
    place.child name = place'.child name' ↔ place = place' ∧ name = name' := by
  constructor
  · intro h
    have hplace : place = place' := by
      rw [← parent_child place name, h, parent_child]
    have hnames : name :: place.names = name' :: place'.names := congrArg names h
    exact ⟨hplace, (List.cons.inj hnames).1⟩
  · rintro ⟨rfl, rfl⟩
    rfl

end Place

namespace FileSystem

variable {fs : FileSystem} {place next : Place} {name : String} {names : List String} {path : Path}

/-- Only directories can be stepped into or out of. -/
theorem step_eq_ok (h : fs.step place name = .ok next) :
    fs.entry? place = some .directory ∧ next = place.move name := by
  rw [step] at h
  rw [Place.move]
  split at h
  · cases h
  · cases h
  · refine ⟨‹_›, ?_⟩
    split_ifs at h ⊢
    · exact (Except.ok.inj h).symm
    · exact (Except.ok.inj h).symm
    · exact (Except.ok.inj h).symm

theorem walk_eq_ok (h : fs.walk place names = .ok next) : next = names.foldl Place.move place := by
  induction names generalizing place with
  | nil => exact (Except.ok.inj h).symm
  | cons name names ih =>
    rw [walk, List.foldlM_cons] at h
    cases hstep : fs.step place name with
    | error e =>
      rw [hstep] at h
      cases h
    | ok middle =>
      rw [hstep] at h
      rw [List.foldl_cons, ← (step_eq_ok hstep).2]
      exact ih h

theorem start_eq_ok (h : fs.start path = .ok place) :
    place = if path.isAbsolute then .root else fs.current := by
  rw [start] at h
  split_ifs at h ⊢
  · exact (Except.ok.inj h).symm
  · exact (Except.ok.inj h).symm

end FileSystem

namespace Path

/-- Where a path leads by its text. -/
def placeFrom (path : Path) (current : Place) : Place :=
  (components path).foldl Place.move (if path.isAbsolute then .root else current)

/-- The path leads through the place, or to it, by its text. -/
def LeadsThrough (path : Path) (current place : Place) : Prop :=
  ∃ k, place = ((components path).take k).foldl Place.move
    (if path.isAbsolute then .root else current)

/-- Components that stay where they are may be left out. -/
theorem exists_foldl_take_of_filter {keep : String → Bool}
    (hkeep : ∀ name, keep name = false → ∀ place : Place, place.move name = place)
    (names : List String) (place : Place) (k : Nat) :
    ∃ k', ((names.filter keep).take k).foldl Place.move place =
      (names.take k').foldl Place.move place := by
  induction names generalizing place k with
  | nil => exact ⟨0, by simp⟩
  | cons name names ih =>
    by_cases hname : keep name = true
    · cases k with
      | zero => exact ⟨0, rfl⟩
      | succ k =>
        obtain ⟨k', hk'⟩ := ih (place.move name) k
        refine ⟨k' + 1, ?_⟩
        rw [List.filter_cons_of_pos hname]
        exact hk'
    · obtain ⟨k', hk'⟩ := ih place k
      refine ⟨k' + 1, ?_⟩
      rw [List.filter_cons_of_neg hname, List.take_succ_cons, List.foldl_cons,
        hkeep name (Bool.eq_false_iff.mpr hname)]
      exact hk'

end Path

namespace FileSystem

theorem locate_eq_ok {fs : FileSystem} {path : Path} {place : Place}
    (h : fs.locate path = .ok place) : place = path.placeFrom fs.current := by
  rw [locate] at h
  cases hstart : fs.start path with
  | error e =>
    rw [hstart] at h
    cases h
  | ok first =>
    rw [hstart] at h
    rw [Path.placeFrom, ← start_eq_ok hstart]
    exact walk_eq_ok h

end FileSystem

namespace Path

/-! ### Joining -/

/-- The text is the name of an entry of a directory. -/
structure IsName (name : String) : Prop where
  ne_empty : name ≠ ""
  ne_point : name ≠ "."
  ne_points : name ≠ ".."
  slash_notMem : '/' ∉ name.toList

instance (name : String) : Decidable (IsName name) :=
  decidable_of_iff (name ≠ "" ∧ name ≠ "." ∧ name ≠ ".." ∧ '/' ∉ name.toList)
    ⟨fun ⟨h, h', h'', h'''⟩ => ⟨h, h', h'', h'''⟩, fun ⟨h, h', h'', h'''⟩ => ⟨h, h', h'', h'''⟩⟩

variable {base : Path} {name other : String} {current : Place}

theorem IsName.move_eq (h : IsName name) (place : Place) : place.move name = place.child name := by
  rw [Place.move, if_neg (not_or_intro h.ne_empty h.ne_point), if_neg h.ne_points]

theorem IsName.components_eq (h : IsName name) : components name = [name] := by
  rw [components, Text.parts_of_forall fun c hc => ?_]
  · simp
  · exact beq_eq_false_iff_ne.mpr fun heq => h.slash_notMem (heq ▸ hc)

theorem IsName.not_isAbsolute (h : IsName name) : isAbsolute name = false := by
  rw [isAbsolute]
  cases hcs : name.toList with
  | nil => rfl
  | cons c cs =>
    have hc : c ≠ '/' := fun heq => h.slash_notMem (by rw [hcs, heq]; exact List.mem_cons_self)
    simpa using hc

/-- A name is joined to a path by exactly one slash. -/
theorem toList_join (h : IsName name) (hbase : base ≠ "") :
    ∃ cs, (join base name).toList = cs ++ '/' :: name.toList ∧
      (base.toList = cs ∨ base.toList = cs ++ ['/']) := by
  rw [join, h.not_isAbsolute, Bool.false_or,
    if_neg (by simpa [String.isEmpty_iff] using hbase)]
  split
  · next hlast =>
    obtain ⟨cs, hcs⟩ := List.getLast?_eq_some_iff.mp (beq_iff_eq.mp hlast)
    refine ⟨cs, ?_, .inr hcs⟩
    rw [String.toList_append, hcs, List.append_assoc]
    rfl
  · refine ⟨base.toList, ?_, .inl rfl⟩
    simp

theorem isAbsolute_join (h : IsName name) (hbase : base ≠ "") :
    (join base name).isAbsolute = base.isAbsolute := by
  obtain ⟨cs, hjoin, hcs⟩ := toList_join h hbase
  rw [isAbsolute, isAbsolute, hjoin]
  cases cs with
  | nil =>
    rcases hcs with hcs | hcs
    · exact absurd (String.toList_eq_nil_iff.mp hcs) hbase
    · rw [hcs]
      rfl
  | cons c cs => rcases hcs with hcs | hcs <;> rw [hcs] <;> rfl

theorem placeFrom_join (h : IsName name) :
    (join base name).placeFrom current = (base.placeFrom current).child name := by
  by_cases hbase : base = ""
  · subst hbase
    have hjoin : join "" name = name := by simp [join]
    rw [hjoin, placeFrom, h.components_eq, h.not_isAbsolute]
    exact h.move_eq _
  · obtain ⟨cs, hjoin, hcs⟩ := toList_join h hbase
    have hcomponents : components (join base name) =
        (Text.parts (· == '/') cs).map String.ofList ++ [name] := by
      rw [components, hjoin, Text.parts_append_cons (by rfl), List.map_append]
      exact congrArg _ h.components_eq
    rw [placeFrom, isAbsolute_join h hbase, hcomponents, List.foldl_append, placeFrom]
    refine (h.move_eq _).trans (congrArg (Place.child · name) ?_)
    rcases hcs with hcs | hcs
    · rw [components, hcs]
    · -- The slash at the end of the base leaves an empty component, which stays.
      rw [components, hcs, Text.parts_append_cons (by rfl), List.map_append, List.foldl_append]
      rfl

/-! ### Parents -/

theorem leadLength_le_one (cs : List Char) : leadLength cs ≤ 1 := by
  unfold leadLength
  split <;> decide

/-- Characters before a name belong to the start of a path, but none of the name does. -/
theorem leadLength_le (h : IsName name) (before after : List Char) :
    leadLength (before ++ (name.toList ++ '/' :: after)) ≤ before.length := by
  cases before with
  | cons c before => exact Nat.le_trans (leadLength_le_one _) (Nat.le_add_left _ _)
  | nil =>
    have hempty : name.toList ≠ [] := fun heq => h.ne_empty (String.toList_eq_nil_iff.mp heq)
    have hpoint : name.toList ≠ ['.'] := fun heq => h.ne_point (String.toList_inj.mp heq)
    have hslash := h.slash_notMem
    generalize name.toList = cs at hempty hpoint hslash
    match cs with
    | [c] =>
      simp only [List.mem_singleton, ne_eq, List.cons.injEq, and_true] at hslash hpoint
      simp [leadLength, Ne.symm hslash, hpoint]
    | c :: d :: cs =>
      simp only [List.mem_cons, not_or] at hslash
      simp [leadLength, Ne.symm hslash.1, Ne.symm hslash.2.1]

/-- A name at the end of a path is not dropped. -/
theorem dropEmptyEnd_reverse (h : IsName name) {before : List Char} :
    dropEmptyEnd (name.toList.reverse ++ before) = name.toList.reverse ++ before := by
  have hempty : name.toList.reverse ≠ [] := fun heq =>
    h.ne_empty (String.toList_eq_nil_iff.mp (List.reverse_eq_nil_iff.mp heq))
  have hpoint : name.toList.reverse ≠ ['.'] := fun heq =>
    h.ne_point (String.toList_inj.mp (List.reverse_inj.mp heq))
  have hslash : '/' ∉ name.toList.reverse := fun hmem => h.slash_notMem (List.mem_reverse.mp hmem)
  generalize name.toList.reverse = cs at hempty hpoint hslash
  match cs with
  | [c] =>
    simp only [List.mem_singleton, ne_eq, List.cons.injEq, and_true] at hslash hpoint
    rw [List.singleton_append, dropEmptyEnd]
    all_goals simp_all [eq_comm]
  | c :: d :: cs =>
    simp only [List.mem_cons, not_or] at hslash
    rw [List.cons_append, List.cons_append, dropEmptyEnd]
    all_goals simp_all [eq_comm]

/-- A joined path is some start with the name at its end. -/
theorem exists_toList_join (base : Path) (h : IsName name) :
    ∃ before, (join base name).toList = before ++ name.toList := by
  by_cases hbase : base = ""
  · refine ⟨[], ?_⟩
    simp [hbase, join]
  · obtain ⟨cs, hjoin, -⟩ := toList_join h hbase
    exact ⟨cs ++ ['/'], by simp [hjoin]⟩

theorem parent?_of_toList_eq {path parent : Path} {before : List Char} (h : IsName name)
    (hother : IsName other) (hparent : parent.toList = before ++ other.toList)
    (hpath : path.toList = parent.toList ++ '/' :: name.toList) : path.parent? = some parent := by
  have hlead := leadLength_le hother before name.toList
  have hcs : path.toList = before ++ (other.toList ++ '/' :: name.toList) := by
    rw [hpath, hparent, List.append_assoc]
  have hname : name.toList.reverse ≠ [] := fun heq =>
    h.ne_empty (String.toList_eq_nil_iff.mp (List.reverse_eq_nil_iff.mp heq))
  generalize hL : leadLength (before ++ (other.toList ++ '/' :: name.toList)) = lead at hlead
  have hbody : dropEmptyEnd (path.toList.drop lead).reverse =
      name.toList.reverse ++ '/' :: (other.toList.reverse ++ (before.drop lead).reverse) := by
    rw [hcs, List.drop_append_of_le_length hlead]
    simp only [List.reverse_append, List.reverse_cons, List.append_assoc,
      List.cons_append]
    exact dropEmptyEnd_reverse h
  have habove : dropEmptyEnd ((dropEmptyEnd (path.toList.drop lead).reverse).dropWhile (· != '/')) =
      other.toList.reverse ++ (before.drop lead).reverse := by
    rw [hbody, List.dropWhile_append_of_pos, List.dropWhile_cons_of_neg (by decide), dropEmptyEnd]
    · exact dropEmptyEnd_reverse hother
    · intro c hc
      exact bne_iff_ne.mpr fun heq => h.slash_notMem (heq ▸ List.mem_reverse.mp hc)
  have hlead' : leadLength path.toList = lead := by rw [hcs, hL]
  simp only [parent?, hlead', habove]
  rw [hbody, if_neg (by simp [hname]), hcs, List.take_append_of_le_length hlead,
    List.reverse_append, List.reverse_reverse, List.reverse_reverse, ← List.append_assoc,
    List.take_append_drop, ← hparent, String.ofList_toList]

theorem parent?_join (h : IsName name) (hother : IsName other) :
    parent? (join (join base other) name) = some (join base other) := by
  obtain ⟨before, hbefore⟩ := exists_toList_join base hother
  have hne : join base other ≠ "" := fun heq => by
    rw [heq] at hbefore
    exact hother.ne_empty (String.toList_eq_nil_iff.mp (List.append_eq_nil_iff.mp hbefore.symm).2)
  obtain ⟨cs, hjoin, hcs | hcs⟩ := toList_join h hne
  · exact parent?_of_toList_eq h hother hbefore (hcs ▸ hjoin)
  · -- The base ends in a name, which has no slash.
    have hreverse : other.toList.reverse ++ before.reverse = '/' :: cs.reverse := by
      rw [← List.reverse_append, ← hbefore, hcs, List.reverse_append]
      rfl
    have hempty : other.toList.reverse ≠ [] := fun heq =>
      hother.ne_empty (String.toList_eq_nil_iff.mp (List.reverse_eq_nil_iff.mp heq))
    obtain ⟨c, rest, hrest⟩ := List.exists_cons_of_ne_nil hempty
    rw [hrest, List.cons_append] at hreverse
    have hmem : '/' ∈ other.toList.reverse := by
      rw [hrest, (List.cons.inj hreverse).1]
      exact List.mem_cons_self
    exact absurd (List.mem_reverse.mp hmem) hother.slash_notMem

end Path

end ScoreDeploy
