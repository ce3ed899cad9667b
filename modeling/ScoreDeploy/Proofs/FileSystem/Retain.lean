import ScoreDeploy.Proofs.FileSystem.Effect

/-!
# What stays readable

A file that can be read goes on being readable under the same path while other files are written and
directories are made: directories stay, so every path leads where it led before.
-/

namespace ScoreDeploy.FileSystem

/-- Directories stay, and so do all files but those at the touched places. -/
structure Retains (touched : Place → Prop) (fs fs' : FileSystem) : Prop where
  current_eq : fs'.current = fs.current
  directory_eq {place : Place} :
    fs.entry? place = some .directory → fs'.entry? place = some .directory
  file_eq {place : Place} {content : Bytes} : ¬touched place →
    fs.entry? place = some (.file content) → fs'.entry? place = some (.file content)

variable {fs fs' fs'' : FileSystem} {touched touched' : Place → Prop} {place next : Place}
variable {path : Path} {content : Bytes} {reply : Except IoError Unit}

namespace Retains

theorem refl (touched : Place → Prop) (fs : FileSystem) : Retains touched fs fs :=
  ⟨rfl, id, fun _ => id⟩

theorem trans (h : Retains touched fs fs') (h' : Retains touched fs' fs'') :
    Retains touched fs fs'' where
  current_eq := h'.current_eq.trans h.current_eq
  directory_eq hplace := h'.directory_eq (h.directory_eq hplace)
  file_eq hplace hfile := h'.file_eq hplace (h.file_eq hplace hfile)

theorem mono (h : Retains touched fs fs') (hle : ∀ place, touched place → touched' place) :
    Retains touched' fs fs' :=
  ⟨h.current_eq, h.directory_eq, fun hplace => h.file_eq (mt (hle _) hplace)⟩

theorem walk_eq (h : Retains touched fs fs') {names : List String}
    (hwalk : fs.walk place names = .ok next) : fs'.walk place names = .ok next := by
  induction names generalizing place with
  | nil => exact hwalk
  | cons name names ih =>
    obtain ⟨middle, hstep, hrest⟩ := Except.bind_eq_ok_iff.mp hwalk
    have hplace := (step_eq_ok hstep).1
    -- A step looks only at the directory that it starts from.
    have hstep' : fs'.step place name = .ok middle := by
      rw [step, hplace] at hstep
      rw [step, h.directory_eq hplace]
      exact hstep
    exact Except.bind_eq_ok_iff.mpr ⟨middle, hstep', ih hrest⟩

theorem locate_eq (h : Retains touched fs fs') (hlocate : fs.locate path = .ok place) :
    fs'.locate path = .ok place := by
  obtain ⟨first, hstart, hwalk⟩ := Except.bind_eq_ok_iff.mp hlocate
  refine Except.bind_eq_ok_iff.mpr ⟨first, ?_, h.walk_eq hwalk⟩
  rw [start, h.current_eq]
  exact hstart

end Retains

/-! ### Reading -/

theorem read_eq_ok_iff :
    fs.read path = .ok content ↔
      ∃ place, fs.locate path = .ok place ∧ fs.entry? place = some (.file content) := by
  constructor
  · intro h
    obtain ⟨entry, hfind, hcontent⟩ := Except.bind_eq_ok_iff.mp h
    obtain ⟨place, hlocate, hentry⟩ := Except.bind_eq_ok_iff.mp hfind
    refine ⟨place, hlocate, ?_⟩
    cases hplace : fs.entry? place with
    | none =>
      rw [hplace] at hentry
      cases hentry
    | some found =>
      rw [hplace] at hentry
      obtain rfl := Except.ok.inj hentry
      cases found with
      | file bytes => rw [Except.ok.inj hcontent]
      | directory => cases hcontent
  · rintro ⟨place, hlocate, hentry⟩
    have hfind : fs.find path = .ok (.file content) := by
      refine Except.bind_eq_ok_iff.mpr ⟨place, hlocate, ?_⟩
      rw [hentry]
      rfl
    exact Except.bind_eq_ok_iff.mpr ⟨_, hfind, rfl⟩

theorem Retains.read_eq (h : Retains touched fs fs')
    (hplace : ¬touched (path.placeFrom fs.current)) (hread : fs.read path = .ok content) :
    fs'.read path = .ok content := by
  obtain ⟨place, hlocate, hentry⟩ := read_eq_ok_iff.mp hread
  rw [← locate_eq_ok hlocate] at hplace
  exact read_eq_ok_iff.mpr ⟨place, h.locate_eq hlocate, h.file_eq hplace hentry⟩

/-! ### Changing files -/

theorem retains_put (hplace : fs.entry? place ≠ some .directory) :
    Retains (· = place) fs (fs.put place (.file content)) := by
  have hroot : place ≠ .root := fun hroot => hplace (hroot ▸ entry?_root fs)
  refine ⟨rfl, fun {other} hother => ?_, fun {other _} hne hother => ?_⟩
  · have hne : other ≠ place := fun heq => hplace (heq ▸ hother)
    rw [entry?_put hroot, if_neg hne]
    exact hother
  · rw [entry?_put hroot, if_neg hne]
    exact hother

/-- What was written can be read. -/
theorem retains_of_write (h : fs.write path content = .ok fs') :
    Retains (· = path.placeFrom fs.current) fs fs' ∧ fs'.read path = .ok content := by
  obtain ⟨place, hlocate, hplace, rfl⟩ := write_eq_ok h
  have hroot : place ≠ .root := fun hroot => hplace (hroot ▸ entry?_root fs)
  have hretains : Retains (· = place) fs (fs.put place (.file content)) := retains_put hplace
  rw [← locate_eq_ok hlocate]
  refine ⟨hretains, read_eq_ok_iff.mpr ⟨place, hretains.locate_eq hlocate, ?_⟩⟩
  rw [entry?_put hroot, if_pos rfl]

theorem retains_of_rule_write (h : rule (.write path content) fs reply fs') :
    Retains (· = path.placeFrom fs.current) fs fs' ∧
      (reply = .ok () → fs'.read path = .ok content) := by
  cases reply with
  | ok _ =>
    obtain ⟨hretains, hread⟩ := retains_of_write h
    exact ⟨hretains, fun _ => hread⟩
  | error e =>
    refine ⟨?_, by rintro ⟨⟩⟩
    rcases h with rfl | ⟨count, hwrite⟩
    · exact .refl _ _
    · exact (retains_of_write hwrite).1

/-- What was renamed can be read under the new path, wherever both paths lead. -/
theorem IsTree.read_of_rename {old new : Path} (htree : fs.IsTree)
    (h : fs.rename old new = .ok fs') (hread : fs.read old = .ok content) :
    fs'.read new = .ok content := by
  obtain ⟨source, target, content', hsource, htarget, hfile, hplace, rfl⟩ := rename_eq_ok h
  obtain ⟨source', hlocate, hentry⟩ := read_eq_ok_iff.mp hread
  obtain rfl := Except.ok.inj (hsource.symm.trans hlocate)
  obtain ⟨⟩ := hfile.symm.trans hentry
  have hroot : target ≠ .root := fun hroot => hplace (hroot ▸ entry?_root fs)
  have hremoved : Retains (· = source) fs (fs.removeAt source) := by
    refine ⟨rfl, fun {place} hdirectory => ?_, fun {place _} hne hother => ?_⟩
    · have hne : place ≠ source := fun heq => by
        rw [heq, hfile] at hdirectory
        cases hdirectory
      rw [htree.entry?_removeAt hfile, if_neg hne, hdirectory]
    · rw [htree.entry?_removeAt hfile, if_neg hne, hother]
  have hfree : FileSystem.entry? (fs.removeAt source) target ≠ some .directory := by
    rw [htree.entry?_removeAt hfile]
    split_ifs
    · simp
    · exact hplace
  have hmoved : FileSystem.locate ((fs.removeAt source).put target (.file content)) new =
      .ok target := (retains_put hfree).locate_eq (hremoved.locate_eq htarget)
  refine read_eq_ok_iff.mpr ⟨target, hmoved, ?_⟩
  rw [entry?_put hroot, if_pos rfl]

theorem Changes.retains {way : Place → Prop} (h : Changes (fun _ => False) way fs fs') :
    Retains touched fs fs' := by
  have hsame : ∀ place, fs'.entry? place = fs.entry? place ∨ fs.entry? place = none := fun _ =>
    (h.entry?_eq id).imp_right fun hnone => hnone.1
  refine ⟨h.current_eq, fun {place} hplace => ?_, fun {place content} _ hplace => ?_⟩
  all_goals
    rcases hsame place with heq | hnone
    · rw [heq]
      exact hplace
    · rw [hnone] at hplace
      cases hplace

theorem retains_of_rule_makeDirectories (h : rule (.makeDirectories path) fs reply fs') :
    Retains touched fs fs' :=
  ((makesSome_of_rule h).changes _).1.retains

end ScoreDeploy.FileSystem
