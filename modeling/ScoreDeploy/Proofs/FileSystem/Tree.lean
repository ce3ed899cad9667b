import Mathlib.Logic.Function.Iterate
import ScoreDeploy.Proofs.Except
import ScoreDeploy.Proofs.FileSystem.Place

/-!
# File systems as trees

In a tree every entry lies in a directory, so nothing lies below a file. The operations that change
files are described by what is where afterwards: writing changes one place, renaming two, and making
directories only fills places that were empty. All of them keep a tree a tree.
-/

namespace ScoreDeploy

namespace Place

theorem ext_names {place place' : Place} (h : place.names = place'.names) : place = place' := by
  obtain ⟨depth, names, rfl⟩ := place
  obtain ⟨depth', names', rfl⟩ := place'
  obtain rfl : names = names' := h
  rfl

theorem names_iterate_parent (place : Place) (k : Nat) :
    (parent^[k] place).names = place.names.drop k := by
  induction k generalizing place with
  | zero => rfl
  | succ k ih =>
    rw [Function.iterate_succ_apply, ih, parent, List.drop_tail]

/-- Whatever lies within a directory comes to it by going up. -/
theorem exists_iterate_parent {place directory : Place} (h : place.isWithin directory = true) :
    ∃ k, parent^[k] place = directory := by
  rw [isWithin, Bool.and_eq_true, beq_iff_eq] at h
  exact ⟨_, ext_names ((names_iterate_parent _ _).trans h.2)⟩

@[simp]
theorem isWithin_self (place : Place) : place.isWithin place = true := by
  simp [isWithin]

theorem parent_ne_self {place : Place} (h : place ≠ root) : place.parent ≠ place := by
  intro heq
  have hnames : place.names.tail = place.names := congrArg names heq
  cases hcs : place.names with
  | nil => exact h (ext_names hcs)
  | cons name rest =>
    rw [hcs] at hnames
    exact List.cons_ne_self _ _ hnames.symm

end Place

namespace FileSystem

variable {fs fs' : FileSystem} {place place' source target : Place} {entry : Entry}
variable {path : Path} {content : Bytes}

/-! ### What is where -/

/-- The bytes of the file at a place. -/
def content? (fs : FileSystem) (place : Place) : Option Bytes :=
  match fs.entry? place with
  | some (.file content) => some content
  | _ => none

@[simp]
theorem entry?_root (fs : FileSystem) : fs.entry? .root = some .directory :=
  if_pos rfl

theorem entry?_of_ne_root (h : place ≠ .root) : fs.entry? place = fs.entries.lookup place :=
  if_neg h

theorem lookup_filter_fst (p : Place → Bool) (place : Place) (entries : List (Place × Entry)) :
    (entries.filter fun e => p e.1).lookup place =
      if p place then entries.lookup place else none := by
  induction entries with
  | nil => simp
  | cons e entries ih =>
    obtain ⟨key, entry⟩ := e
    by_cases hkey : place = key
    · subst hkey
      by_cases hp : p place = true <;> simp [hp, ih]
    · have hbeq : (place == key) = false := beq_eq_false_iff_ne.mpr hkey
      by_cases hp : p key = true <;> simp [hp, ih, List.lookup_cons, hbeq]

theorem entry?_put (h : place ≠ .root) :
    FileSystem.entry? (fs.put place entry) place' =
      if place' = place then some entry else fs.entry? place' := by
  by_cases hroot : place' = .root
  · rw [hroot, if_neg h.symm, entry?_root, entry?_root]
  · rw [entry?_of_ne_root hroot, entry?_of_ne_root hroot, put, List.lookup_cons]
    split_ifs with hplace
    · rw [beq_iff_eq.mpr hplace]
    · rw [beq_eq_false_iff_ne.mpr hplace]
      refine (lookup_filter_fst (fun p => p != place) place' _).trans ?_
      rw [if_pos (bne_iff_ne.mpr hplace)]

theorem entry?_removeAt (h : place' ≠ .root) :
    FileSystem.entry? (fs.removeAt place) place' =
      if place'.isWithin place then none else fs.entry? place' := by
  rw [entry?_of_ne_root h, entry?_of_ne_root h, removeAt]
  refine (lookup_filter_fst (fun p => !p.isWithin place) place' _).trans ?_
  by_cases hwithin : place'.isWithin place = true <;> simp [hwithin]

theorem find_eq_ok (h : fs.find path = .ok entry) :
    fs.entry? (path.placeFrom fs.current) = some entry := by
  obtain ⟨place, hlocate, hentry⟩ := Except.bind_eq_ok_iff.mp h
  rw [← locate_eq_ok hlocate]
  split at hentry
  · cases hentry
    assumption
  · cases hentry

theorem read_eq_ok (h : fs.read path = .ok content) :
    fs.content? (path.placeFrom fs.current) = some content := by
  obtain ⟨entry, hfind, hcontent⟩ := Except.bind_eq_ok_iff.mp h
  rw [content?, find_eq_ok hfind]
  cases entry with
  | file bytes => exact congrArg some (Except.ok.inj hcontent)
  | directory => cases hcontent

/-! ### Trees -/

/-- Every entry lies in a directory. -/
def IsTree (fs : FileSystem) : Prop :=
  ∀ place, fs.entry? place ≠ none → fs.entry? place.parent = some .directory

theorem isTree_of_forall_mem
    (h : ∀ e ∈ fs.entries, fs.entry? e.1.parent = some .directory) : fs.IsTree := by
  intro place hplace
  by_cases hroot : place = .root
  · rw [hroot]
    exact entry?_root _
  · rw [entry?_of_ne_root hroot] at hplace
    obtain ⟨entry, hentry⟩ := Option.ne_none_iff_exists'.mp hplace
    obtain ⟨_, _, hentries, -⟩ := List.lookup_eq_some_iff.mp hentry
    refine h (place, entry) ?_
    rw [hentries]
    exact List.mem_append_right _ List.mem_cons_self

theorem IsTree.entry?_iterate_parent (h : fs.IsTree) (hplace : fs.entry? place ≠ none) (k : Nat) :
    fs.entry? (Place.parent^[k + 1] place) = some .directory := by
  induction k with
  | zero => exact h place hplace
  | succ k ih =>
    rw [Function.iterate_succ_apply']
    refine h _ fun hnone => ?_
    rw [ih] at hnone
    cases hnone

/-- Nothing lies below a file. -/
theorem IsTree.entry?_eq_none (h : fs.IsTree) (hfile : fs.entry? source = some (.file content))
    (hwithin : place.isWithin source = true) (hne : place ≠ source) : fs.entry? place = none := by
  by_contra hplace
  obtain ⟨k, rfl⟩ := Place.exists_iterate_parent hwithin
  cases k with
  | zero => exact hne rfl
  | succ k =>
    rw [h.entry?_iterate_parent hplace k] at hfile
    cases hfile

/-- A file that is taken away takes nothing else with it. -/
theorem IsTree.entry?_removeAt (h : fs.IsTree) (hfile : fs.entry? source = some (.file content)) :
    FileSystem.entry? (fs.removeAt source) place =
      if place = source then none else fs.entry? place := by
  by_cases hroot : place = .root
  · subst hroot
    rw [entry?_root, entry?_root, if_neg fun hsource => ?_]
    rw [← hsource, entry?_root] at hfile
    cases hfile
  · rw [FileSystem.entry?_removeAt hroot]
    split_ifs with hwithin heq heq
    · rfl
    · exact (h.entry?_eq_none hfile hwithin heq).symm
    · exact absurd (heq ▸ Place.isWithin_self source) hwithin
    · rfl

/-- Something may be put where its directory is, but for over a directory. -/
theorem IsTree.put (h : fs.IsTree) (hparent : fs.entry? place.parent = some .directory)
    (hplace : fs.entry? place ≠ some .directory) : (fs.put place entry).IsTree := by
  have hroot : place ≠ .root := fun hroot => hplace (hroot ▸ entry?_root fs)
  intro other hother
  rw [entry?_put hroot] at hother ⊢
  by_cases heq : other = place
  · rw [heq, if_neg (Place.parent_ne_self hroot), hparent]
  · rw [if_neg heq] at hother
    have hdirectory := h other hother
    have hbeside : other.parent ≠ place := fun hbelow => hplace (by rw [← hbelow, hdirectory])
    rw [if_neg hbeside, hdirectory]

theorem IsTree.removeAt (h : fs.IsTree) (hfile : fs.entry? source = some (.file content)) :
    (fs.removeAt source).IsTree := by
  intro other hother
  rw [h.entry?_removeAt hfile] at hother ⊢
  have hdirectory := h other fun hnone => hother (by rw [hnone, ite_self])
  have hbeside : other.parent ≠ source := fun hbelow => by
    rw [hbelow, hfile] at hdirectory
    cases hdirectory
  rw [if_neg hbeside, hdirectory]

/-! ### Where something can be put -/

theorem IsTree.entry?_parent_of_step (h : fs.IsTree) {name : String}
    (hstep : fs.step place name = .ok place') : fs.entry? place'.parent = some .directory := by
  obtain ⟨hplace, rfl⟩ := step_eq_ok hstep
  have hparent : fs.entry? place.parent = some .directory := h place (by simp [hplace])
  rw [Place.move]
  split_ifs
  · exact hparent
  · exact h _ (by simp [hparent])
  · rw [Place.parent_child, hplace]

theorem IsTree.entry?_parent_of_walk (h : fs.IsTree) {names : List String} (hnames : names ≠ [])
    (hwalk : fs.walk place names = .ok place') : fs.entry? place'.parent = some .directory := by
  induction names generalizing place with
  | nil => exact absurd rfl hnames
  | cons name names ih =>
    obtain ⟨middle, hstep, hrest⟩ := Except.bind_eq_ok_iff.mp hwalk
    cases names with
    | nil =>
      obtain rfl := Except.ok.inj hrest
      exact h.entry?_parent_of_step hstep
    | cons name' names => exact ih (List.cons_ne_nil _ _) hrest

/-- A path leads only to places whose directory is there. -/
theorem IsTree.entry?_parent_of_locate (h : fs.IsTree) (hlocate : fs.locate path = .ok place) :
    fs.entry? place.parent = some .directory := by
  obtain ⟨first, -, hwalk⟩ := Except.bind_eq_ok_iff.mp hlocate
  exact h.entry?_parent_of_walk (by simp [Path.components, Text.parts_ne_nil]) hwalk

/-! ### Writing and renaming -/

theorem write_eq_ok (h : fs.write path content = .ok fs') :
    ∃ place, fs.locate path = .ok place ∧ fs.entry? place ≠ some .directory ∧
      fs' = fs.put place (.file content) := by
  rw [write] at h
  dsimp only at h
  split at h
  · -- A path with a slash at its end is never written.
    obtain ⟨_, -, h⟩ := Except.bind_eq_ok_iff.mp h
    obtain ⟨_, -, h⟩ := Except.bind_eq_ok_iff.mp h
    obtain ⟨_, -, h⟩ := Except.bind_eq_ok_iff.mp h
    obtain ⟨_, h, -⟩ := Except.bind_eq_ok_iff.mp h
    cases h
  · obtain ⟨place, hlocate, h⟩ := Except.bind_eq_ok_iff.mp h
    refine ⟨place, hlocate, ?_⟩
    split at h
    · cases h
    · exact ⟨‹_›, (Except.ok.inj h).symm⟩

theorem IsTree.write (h : fs.IsTree) (hwrite : fs.write path content = .ok fs') : fs'.IsTree := by
  obtain ⟨place, hlocate, hplace, rfl⟩ := write_eq_ok hwrite
  exact h.put (h.entry?_parent_of_locate hlocate) hplace

theorem rename_eq_ok {old new : Path} (h : fs.rename old new = .ok fs') :
    ∃ source target content, fs.locate old = .ok source ∧ fs.locate new = .ok target ∧
      fs.entry? source = some (.file content) ∧ fs.entry? target ≠ some .directory ∧
      fs' = (fs.removeAt source).put target (.file content) := by
  rw [rename] at h
  obtain ⟨source, hsource, h⟩ := Except.bind_eq_ok_iff.mp h
  obtain ⟨target, htarget, h⟩ := Except.bind_eq_ok_iff.mp h
  split at h
  · cases h
  · cases h
  · next content hcontent hdirectory =>
    exact ⟨source, target, content, hsource, htarget, hcontent, hdirectory,
      (Except.ok.inj h).symm⟩
  · cases h
  · cases h

/-! ### Making directories -/

/-- Apart from the touched places, the only differences are new directories, where nothing was, on
a way. -/
structure Changes (touched way : Place → Prop) (fs fs' : FileSystem) : Prop where
  current_eq : fs'.current = fs.current
  entry?_eq {place : Place} : ¬touched place → fs'.entry? place = fs.entry? place ∨
    fs.entry? place = none ∧ fs'.entry? place = some .directory ∧ way place

variable {touched touched' way way' : Place → Prop}

theorem Changes.refl (touched way : Place → Prop) (fs : FileSystem) : Changes touched way fs fs :=
  ⟨rfl, fun _ => .inl rfl⟩

theorem Changes.trans {fs'' : FileSystem} (h : Changes touched way fs fs')
    (h' : Changes touched way fs' fs'') : Changes touched way fs fs'' where
  current_eq := h'.current_eq.trans h.current_eq
  entry?_eq {place} hplace := by
    rcases h'.entry?_eq hplace with heq | ⟨hnone, hmade, hway⟩
    · rw [heq]
      exact h.entry?_eq hplace
    · rcases h.entry?_eq hplace with heq | ⟨-, hmade', -⟩
      · exact .inr ⟨heq ▸ hnone, hmade, hway⟩
      · rw [hnone] at hmade'
        cases hmade'

theorem Changes.mono (h : Changes touched way fs fs')
    (htouched : ∀ place, touched place → touched' place) (hway : ∀ place, way place → way' place) :
    Changes touched' way' fs fs' where
  current_eq := h.current_eq
  entry?_eq {place} hplace := by
    refine (h.entry?_eq (mt (htouched place) hplace)).imp_right ?_
    rintro ⟨hnone, hmade, hplace⟩
    exact ⟨hnone, hmade, hway place hplace⟩

/-- A new directory takes no file away. -/
theorem Changes.content?_eq (h : Changes touched way fs fs') (hplace : ¬touched place) :
    fs'.content? place = fs.content? place := by
  rw [content?, content?]
  rcases h.entry?_eq hplace with heq | ⟨hnone, hmade, -⟩
  · rw [heq]
  · rw [hnone, hmade]

theorem changes_put (hroot : place ≠ .root) (htouched : touched place) :
    Changes touched way fs (fs.put place entry) where
  current_eq := rfl
  entry?_eq {other} hother := by
    have hne : other ≠ place := fun heq => hother (heq ▸ htouched)
    rw [entry?_put hroot, if_neg hne]
    exact .inl rfl

theorem changes_put_directory (hplace : fs.entry? place = none) (hway : way place) :
    Changes touched way fs (fs.put place .directory) where
  current_eq := rfl
  entry?_eq {other} _ := by
    have hroot : place ≠ .root := fun hroot => by simp [hroot] at hplace
    rw [entry?_put hroot]
    by_cases heq : other = place
    · rw [heq, if_pos rfl]
      exact .inr ⟨hplace, rfl, hway⟩
    · rw [if_neg heq]
      exact .inl rfl

theorem IsTree.changes_removeAt (h : fs.IsTree) (hfile : fs.entry? source = some (.file content))
    (htouched : touched source) : Changes touched way fs (fs.removeAt source) where
  current_eq := rfl
  entry?_eq {other} hother := by
    have hne : other ≠ source := fun heq => hother (heq ▸ htouched)
    rw [h.entry?_removeAt hfile, if_neg hne]
    exact .inl rfl

/-- Writing changes nothing but the file. -/
theorem IsTree.changes_write (h : fs.IsTree) (hwrite : fs.write path content = .ok fs') :
    fs'.IsTree ∧ Changes (· = path.placeFrom fs.current) way fs fs' ∧
      fs'.entry? (path.placeFrom fs.current) = some (.file content) := by
  obtain ⟨place, hlocate, hplace, rfl⟩ := write_eq_ok hwrite
  obtain rfl := locate_eq_ok hlocate
  have hroot : path.placeFrom fs.current ≠ .root := fun hroot => hplace (hroot ▸ entry?_root fs)
  refine ⟨h.write hwrite, changes_put hroot rfl, ?_⟩
  rw [entry?_put hroot, if_pos rfl]

/-- Renaming moves a file, and changes nothing else. -/
theorem IsTree.changes_rename (h : fs.IsTree) {old new : Path}
    (hrename : fs.rename old new = .ok fs')
    (hne : old.placeFrom fs.current ≠ new.placeFrom fs.current) :
    fs'.IsTree ∧
      Changes (fun p => p = old.placeFrom fs.current ∨ p = new.placeFrom fs.current) way fs fs' ∧
      fs'.content? (new.placeFrom fs.current) = fs.content? (old.placeFrom fs.current) ∧
      fs'.entry? (old.placeFrom fs.current) = none := by
  obtain ⟨source, target, content, hsource, htarget, hfile, hplace, rfl⟩ := rename_eq_ok hrename
  have hparent := h.entry?_parent_of_locate htarget
  obtain rfl := locate_eq_ok hsource
  obtain rfl := locate_eq_ok htarget
  have hroot : new.placeFrom fs.current ≠ .root := fun hroot => hplace (hroot ▸ entry?_root fs)
  have hbeside : (new.placeFrom fs.current).parent ≠ old.placeFrom fs.current := fun hbelow => by
    rw [hbelow, hfile] at hparent
    cases hparent
  refine ⟨(h.removeAt hfile).put ?_ ?_, ?_, ?_, ?_⟩
  · rw [h.entry?_removeAt hfile, if_neg hbeside, hparent]
  · rw [h.entry?_removeAt hfile, if_neg hne.symm]
    exact hplace
  · exact (h.changes_removeAt hfile (.inl rfl)).trans (changes_put hroot (.inr rfl))
  · rw [content?, content?, entry?_put hroot, if_pos rfl, hfile]
  · rw [entry?_put hroot, if_neg hne, h.entry?_removeAt hfile, if_pos rfl]

/-- Directories are made only at places that the names lead through, and a tree stays a tree. -/
theorem changes_makeWay (fs : FileSystem) (names : List String) (place : Place) :
    Changes touched (fun p => ∃ k, p = (names.take k).foldl Place.move place) fs
        (fs.makeWay place names).2 ∧
      (fs.IsTree → (fs.makeWay place names).2.IsTree) := by
  induction names generalizing fs place with
  | nil => exact ⟨.refl _ _ _, id⟩
  | cons name names ih =>
    rw [makeWay]
    cases hstep : fs.step place name with
    | error e => exact ⟨.refl _ _ _, id⟩
    | ok next =>
      -- The places that the rest of the names lead through are further on the way.
      have hway : ∀ p, (∃ k, p = (names.take k).foldl Place.move next) →
          ∃ k, p = ((name :: names).take k).foldl Place.move place := by
        rintro p ⟨k, rfl⟩
        refine ⟨k + 1, ?_⟩
        rw [List.take_succ_cons, List.foldl_cons, ← (step_eq_ok hstep).2]
      dsimp only
      cases hentry : fs.entry? next with
      | none =>
        obtain ⟨hmakes, htree⟩ := ih (fs.put next .directory) next
        refine ⟨(changes_put_directory hentry (hway next ⟨0, rfl⟩)).trans
          (hmakes.mono (fun _ => id) hway), fun h => ?_⟩
        exact htree (h.put (h.entry?_parent_of_step hstep) (by simp [hentry]))
      | some entry =>
        cases entry with
        | file content => exact ⟨.refl _ _ _, id⟩
        | directory =>
          obtain ⟨hmakes, htree⟩ := ih fs next
          exact ⟨hmakes.mono (fun _ => id) hway, htree⟩

/-- The names that a path of directories to be made consists of. -/
def madeNames (path : Path) : List String :=
  (Path.components path).filter fun name => name != "" && name != "."

/-- What making directories has done when it stops somewhere: those for the first names are made,
or nothing is. -/
def MakesSome (path : Path) (fs fs' : FileSystem) : Prop :=
  fs' = fs ∨ ∃ place k, fs.start path = .ok place ∧
    fs' = (fs.makeWay place ((madeNames path).take k)).2

theorem makesSome_makeDirectories (fs : FileSystem) (path : Path) :
    MakesSome path fs (fs.makeDirectories path).2 := by
  rw [makeDirectories]
  split
  · exact .inl rfl
  split
  · exact .inl rfl
  · exact .inl rfl
  · next place _ hstart =>
    refine .inr ⟨place, ?_⟩
    dsimp only
    split
    · -- The last name is made only on the way to it.
      refine ⟨(madeNames path).length - 1, hstart, ?_⟩
      rw [← List.dropLast_eq_take]
      split
      · next hway => exact (congrArg Prod.snd hway).symm
      · next hway => exact (congrArg Prod.snd hway).symm
    · refine ⟨(madeNames path).length, hstart, ?_⟩
      rw [List.take_length]
      rfl
  · exact .inl rfl

theorem MakesSome.changes (touched : Place → Prop) (h : MakesSome path fs fs') :
    Changes touched (path.LeadsThrough fs.current) fs fs' ∧ (fs.IsTree → fs'.IsTree) := by
  rcases h with rfl | ⟨place, k, hstart, rfl⟩
  · exact ⟨.refl _ _ _, id⟩
  · obtain ⟨hmakes, htree⟩ := changes_makeWay fs ((madeNames path).take k) place
    refine ⟨hmakes.mono (fun _ => id) ?_, htree⟩
    rintro p ⟨k', rfl⟩
    have hstays : ∀ name : String, (name != "" && name != ".") = false →
        ∀ place : Place, place.move name = place := fun name hname place => by
      rw [Place.move, if_pos]
      by_contra hne
      simp_all
    obtain ⟨k', hk'⟩ := Path.exists_foldl_take_of_filter hstays (Path.components path) place
      (min k' k)
    refine ⟨k', ?_⟩
    rw [List.take_take, ← start_eq_ok hstart, ← hk', madeNames]

end FileSystem

end ScoreDeploy
