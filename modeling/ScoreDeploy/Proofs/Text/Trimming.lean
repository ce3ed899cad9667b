import Mathlib.Data.List.DropRight
import ScoreDeploy.Text.Blank

/-!
# Trimmed texts

What `trimBlanks` leaves of a text is the one part of it that neither starts nor ends with a blank
and has nothing but blanks around it.
-/

namespace ScoreDeploy.Text

variable {α : Type} {p : α → Bool} {l : List α} {cs core other : List Char}

/-! ### The end of a list -/

theorem dropEndWhile_eq_rdropWhile (p : α → Bool) (l : List α) :
    dropEndWhile p l = l.rdropWhile p :=
  rfl

theorem exists_dropEndWhile_append (p : α → Bool) (l : List α) :
    ∃ back, dropEndWhile p l ++ back = l ∧ ∀ a ∈ back, p a = true :=
  ⟨l.rtakeWhile p, List.rdropWhile_append_rtakeWhile, fun _ => List.mem_rtakeWhile_imp⟩

theorem eq_false_of_mem_getLast? {a : α} (h : a ∈ (dropEndWhile p l).getLast?) : p a = false := by
  rw [dropEndWhile_eq_rdropWhile] at h
  obtain ⟨hne, rfl⟩ := List.mem_getLast?_eq_getLast h
  simpa using List.rdropWhile_last_not p l hne

theorem dropEndWhile_append_of_forall {back : List α} (h : ∀ a ∈ back, p a = true)
    (l : List α) : dropEndWhile p (l ++ back) = dropEndWhile p l := by
  rw [dropEndWhile, List.reverse_append, List.dropWhile_append_of_pos (by simpa using h)]
  rfl

theorem dropEndWhile_eq_self (h : ∀ a ∈ l.getLast?, p a = false) : dropEndWhile p l = l := by
  rw [dropEndWhile_eq_rdropWhile, List.rdropWhile_eq_self_iff]
  intro hne
  rw [h _ (List.getLast?_eq_some_getLast hne)]
  exact Bool.false_ne_true

/-! ### Blanks -/

/-- The core of a text neither starts nor ends with a blank and has nothing but blanks around it. -/
structure IsTrimmed (cs core : List Char) : Prop where
  blanks : ∃ front back, cs = front ++ core ++ back ∧
    (∀ c ∈ front, isBlank c = true) ∧ ∀ c ∈ back, isBlank c = true
  head : ∀ c ∈ core.head?, isBlank c = false
  last : ∀ c ∈ core.getLast?, isBlank c = false

theorem dropWhile_eq_self (h : ∀ a ∈ l.head?, p a = false) : l.dropWhile p = l := by
  cases l with
  | nil => rfl
  | cons a l => simp [h a rfl]

theorem IsTrimmed.eq_trimBlanks (h : IsTrimmed cs core) : core = trimBlanks cs := by
  obtain ⟨⟨front, back, rfl, hfront, hback⟩, hhead, hlast⟩ := h
  rw [trimBlanks, List.append_assoc, List.dropWhile_append_of_pos hfront]
  by_cases hcore : core = []
  · subst hcore
    rw [List.nil_append, List.dropWhile_eq_nil_iff.mpr hback]
    rfl
  · have hcons : (core ++ back).dropWhile isBlank = core ++ back := by
      apply dropWhile_eq_self
      rwa [List.head?_append_of_ne_nil _ hcore]
    rw [hcons, dropEndWhile_append_of_forall hback, dropEndWhile_eq_self hlast]

theorem isTrimmed_trimBlanks (cs : List Char) : IsTrimmed cs (trimBlanks cs) := by
  obtain ⟨back, hback, hblank⟩ := exists_dropEndWhile_append isBlank (cs.dropWhile isBlank)
  refine ⟨⟨cs.takeWhile isBlank, back, ?_, fun _ => List.mem_takeWhile_imp, hblank⟩, ?_,
    fun _ => eq_false_of_mem_getLast?⟩
  · rw [trimBlanks, List.append_assoc, hback, List.takeWhile_append_dropWhile]
  · intro c hc
    obtain ⟨rest, hcons⟩ := List.head?_eq_some_iff.mp hc
    have hfirst := List.head?_dropWhile_not isBlank cs
    rw [trimBlanks] at hcons
    rwa [← hback, hcons] at hfirst

/-- A text without blanks stays as it is. -/
theorem trimBlanks_eq_self (h : ∀ c ∈ cs, isBlank c = false) : trimBlanks cs = cs := by
  refine (IsTrimmed.eq_trimBlanks ⟨⟨[], [], by simp, by simp, by simp⟩, ?_, ?_⟩).symm
  · exact fun c hc => h c (List.mem_of_mem_head? hc)
  · exact fun c hc => h c (List.mem_of_mem_getLast? hc)

end ScoreDeploy.Text
