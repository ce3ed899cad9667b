import ScoreDeploy.Json.Shape
import ScoreDeploy.Proofs.Json.Members
import ScoreDeploy.Proofs.Json.Reread

/-!
# Reading records back

A value that was written is read in a form if the reader takes exactly its characters, wherever they
stand. A record is read member by member: known ones by the form that the record asks for and, if
the record is open, all others as any value. The members of a written object come out as they are,
and in their order, if each of them is one that can be read back.
-/

namespace ScoreDeploy.Json

open Shape

/-- Within that many steps the value is read in that form from its characters, whatever follows that
does not continue a number. -/
def ReadsBack (steps depth : Nat) (shape : Shape) (value : Json) : Prop :=
  ∀ (fuel level : Nat) (blanks tail : List Char), steps ≤ fuel → AreBlank blanks →
    EndsNumber tail →
      readValue fuel depth shape (blanks ++ (prettyChars level value ++ tail)) = .ok (value, tail)

variable {steps depth level outer fuel : Nat} {blanks tail : List Char} {value : Json}
variable {fields : List (Label × Shape)} {keepOthers : Bool}

theorem Rereads.skipSpace_eq (h : Rereads depth value) (hblanks : AreBlank blanks) (level : Nat)
    (tail : List Char) :
    skipSpace (blanks ++ (prettyChars level value ++ tail)) = prettyChars level value ++ tail := by
  obtain ⟨c, rest, hcs, hspace, -⟩ := h.starts level
  rw [skipSpace_append hblanks, hcs, List.cons_append, skipSpace_cons hspace]

theorem Rereads.tree_enoughSteps (h : Rereads depth value) (level : Nat) (htail : EndsNumber tail) :
    tree (enoughSteps (prettyChars level value ++ tail)) depth (prettyChars level value ++ tail) =
      .ok (value, tail) := by
  refine h.tree_eq _ level [] tail ?_ areBlank_nil htail
  rw [enoughSteps, List.length_append]
  omega

theorem ReadsBack.mono {shape : Shape} {more : Nat} (h : ReadsBack steps depth shape value)
    (hle : steps ≤ more) : ReadsBack more depth shape value :=
  fun _ _ _ _ hfuel => h _ _ _ _ (hle.trans hfuel)

/-! ### Values in a form -/

theorem readsBack_anything (h : Rereads depth value) (hcanonical : value.canonical = value) :
    ReadsBack 1 depth .anything value := by
  intro fuel level blanks tail hfuel hblanks htail
  obtain ⟨fuel, rfl⟩ := Nat.exists_eq_add_of_le' hfuel
  rw [readValue, h.skipSpace_eq hblanks]
  simp only [h.tree_enoughSteps level htail, hcanonical]

theorem readsBack_passing {test : Json → Bool} (h : Rereads depth value)
    (htest : test value = true) : ReadsBack 1 depth (.passing test) value := by
  intro fuel level blanks tail hfuel hblanks htail
  obtain ⟨fuel, rfl⟩ := Nat.exists_eq_add_of_le' hfuel
  rw [readValue, h.skipSpace_eq hblanks]
  simp only [h.tree_enoughSteps level htail, htest, if_true]

theorem readsBack_text (s : String) : ReadsBack 1 depth .text (.string s) := by
  intro fuel level blanks tail hfuel hblanks _
  obtain ⟨fuel, rfl⟩ := Nat.exists_eq_add_of_le' hfuel
  rw [prettyChars_string, readValue, skipSpace_append hblanks, quoted_append, skipSpace_cons rfl]
  simp only [Shape.readText, textBody_escaped]

theorem readsBack_optional_text (s : String) :
    ReadsBack 2 depth (.optional .text) (.string s) := by
  intro fuel level blanks tail hfuel hblanks htail
  obtain ⟨fuel, rfl⟩ := Nat.exists_eq_add_of_le' hfuel
  have hback : ReadsBack 1 depth .text (.string s) := readsBack_text s
  have htext := hback (fuel + 1) level [] tail (Nat.le_add_left _ _) areBlank_nil htail
  rw [prettyChars_string, quoted_append] at htext ⊢
  rw [readValue, skipSpace_append hblanks, skipSpace_cons rfl]
  exact htext

theorem readsBack_natural {limit : Nat} {n : Integer} (h : 0 ≤ n.toInt ∧ n.toInt < limit) :
    ReadsBack 1 depth (.natural limit) (.number (.integer n)) := by
  intro fuel level blanks tail hfuel hblanks htail
  obtain ⟨fuel, rfl⟩ := Nat.exists_eq_add_of_le' hfuel
  have hscalar := (scalar_stops (scalar_integer n)).2 tail htail
  obtain ⟨c, rest, hcs, hspace, hbracket, hbrace, -⟩ := startsScalar_of_number (scalar_integer n)
  rw [prettyChars_number]
  rw [hcs, List.nil_append, List.cons_append] at hscalar
  rw [hcs, List.cons_append, readValue, skipSpace_append hblanks, skipSpace_cons hspace]
  change readNatural limit (c :: (rest ++ tail)) = _
  rw [readNatural]
  · simp [hscalar, isNatural, h]
  · exact fun _ heq => hbracket (List.cons.inj heq).1
  · exact fun _ heq => hbrace (List.cons.inj heq).1

/-! ### Records -/

/-- The member has the form that a field asks for, or no field knows it and it is kept; it is read
back. -/
inductive IsReadable (fields : List (Label × Shape)) (keepOthers : Bool) (steps depth : Nat) :
    String × Json → Prop
  | field {label : Label} {shape : Shape} {value : Json} :
      fields.find? (fun f => f.1.accepts label.name) = some (label, shape) →
      ReadsBack steps depth shape value →
      IsReadable fields keepOthers steps depth (label.name, value)
  | other {m : String × Json} : keepOthers = true →
      fields.find? (fun f => f.1.accepts m.1) = none → ReadsBack steps depth .anything m.2 →
      IsReadable fields keepOthers steps depth m

/-- The next member is kept, and reading goes on behind it. -/
theorem readMembers_memberChars {m : String × Json} {found : Members}
    (h : IsReadable fields keepOthers steps depth m) (hnew : ∀ n ∈ found, n.1 ≠ m.1)
    (hblanks : AreBlank blanks) (htail : EndsNumber tail) (hfuel : steps ≤ fuel) :
    readMembers (fuel + 1) depth fields keepOthers found (blanks ++ (memberChars level m ++ tail)) =
      match skipSpace tail with
      | ',' :: rest => readMembers fuel depth fields keepOthers (m :: found) rest
      | '\x7d' :: rest =>
        match checkComplete fields (m :: found) with
        | .error f => .error f
        | .ok () => .ok (.object (m :: found).reverse, rest)
      | [] => .error .unexpectedEnd
      | _ => .error .noComma := by
  have hkey : key (blanks ++ (memberChars level m ++ tail)) =
      .ok (m.1, ':' :: ([' '] ++ (prettyChars level m.2 ++ tail))) := by
    rw [memberChars, List.append_assoc]
    exact key_quoted hblanks m.1 _
  have hread := readMembers.eq_def (fuel + 1) depth fields keepOthers found
    (blanks ++ (memberChars level m ++ tail))
  simp only [hkey] at hread
  cases h with
  | @field label shape value hfind hback =>
    have hvalue := hback fuel level [' '] tail hfuel areBlank_space htail
    simp only [hfind, Members.get?_eq_none hnew, Option.isSome_none, colon_cons, hvalue] at hread
    exact hread
  | other hkeep hfind hback =>
    have hvalue := hback fuel level [' '] tail hfuel areBlank_space htail
    subst hkeep
    simp only [hfind, colon_cons, if_true, hvalue] at hread
    exact hread

theorem length_le_length_following {α : Type} (part : α → List Char) (level : Nat)
    (parts : List α) : parts.length ≤ (following part level parts).length := by
  induction parts with
  | nil => exact Nat.zero_le _
  | cons a rest ih =>
    simp only [following_cons, List.length_append, List.length_cons]
    omega

/-- All members of a record are read back. -/
theorem readMembers_written {m : String × Json} {rest found : Members}
    (h : ∀ n ∈ m :: rest, IsReadable fields keepOthers steps depth n)
    (hnew : ∀ n ∈ m :: rest, ∀ k ∈ found, k.1 ≠ n.1)
    (hdistinct : (m :: rest).Pairwise fun n k => n.1 ≠ k.1) (hblanks : AreBlank blanks)
    (hfuel : rest.length + steps + 1 ≤ fuel)
    (hcomplete : checkComplete fields (rest.reverse ++ m :: found) = .ok ()) :
    readMembers fuel depth fields keepOthers found (blanks ++ (memberChars level m ++
        (following (memberChars level) level rest ++ (line outer ++ '\x7d' :: tail)))) =
      .ok (.object (found.reverse ++ m :: rest), tail) := by
  induction rest generalizing m found fuel blanks with
  | nil =>
    rw [List.length_nil, Nat.zero_add] at hfuel
    obtain ⟨fuel, rfl⟩ : ∃ more, fuel = more + 1 := Nat.exists_eq_add_of_le' (by omega)
    have hcomplete' : checkComplete fields (m :: found) = .ok () := hcomplete
    rw [readMembers_memberChars (h m List.mem_cons_self) (hnew m List.mem_cons_self) hblanks]
    · rw [following_nil, List.nil_append, skipSpace_line_cons rfl]
      change (match checkComplete fields (m :: found) with
        | .error f => _
        | .ok () => _) = _
      rw [hcomplete', List.reverse_cons]
    · exact endsNumber_line _ _
    · exact Nat.le_of_succ_le_succ hfuel
  | cons next rest ih =>
    rw [List.length_cons] at hfuel
    obtain ⟨fuel, rfl⟩ : ∃ more, fuel = more + 1 := Nat.exists_eq_add_of_le' (by omega)
    obtain ⟨hm, hrest⟩ := List.forall_mem_cons.mp h
    obtain ⟨hhead, htail⟩ := List.pairwise_cons.mp hdistinct
    rw [readMembers_memberChars hm (hnew m List.mem_cons_self) hblanks]
    · have hnew' : ∀ n ∈ next :: rest, ∀ k ∈ m :: found, k.1 ≠ n.1 := by
        intro n hn k hk
        rcases List.mem_cons.mp hk with rfl | hk
        · exact hhead n hn
        · exact hnew n (List.mem_cons_of_mem m hn) k hk
      rw [List.reverse_cons, List.append_assoc] at hcomplete
      have hnext : readMembers fuel depth fields keepOthers (m :: found) (line level ++
          (memberChars level next ++ (following (memberChars level) level rest ++
            (line outer ++ '\x7d' :: tail)))) =
              .ok (.object ((m :: found).reverse ++ next :: rest), tail) :=
        ih hrest hnew' htail (areBlank_line level) (by omega) hcomplete
      rw [List.reverse_cons, List.append_assoc, List.singleton_append] at hnext
      rw [following_cons, List.append_assoc, List.cons_append, skipSpace_cons rfl,
        List.append_assoc]
      exact hnext
    · exact endsNumber_following _ (endsNumber_line _ _)
    · omega

theorem prettyChars_object_append (m : String × Json) (rest : Members) (level : Nat)
    (tail : List Char) :
    prettyChars level (.object (m :: rest)) ++ tail = '\x7b' :: (line (level + 1) ++
      (memberChars (level + 1) m ++ (following (memberChars (level + 1)) (level + 1) rest ++
        (line level ++ '\x7d' :: tail)))) := by
  rw [prettyChars_object_cons]
  simp [listed]

/-- Each member has its line, so there are no more members than characters. -/
theorem length_le_length_prettyChars (m : String × Json) (rest : Members) (level : Nat) :
    rest.length ≤ (prettyChars level (.object (m :: rest))).length := by
  have hcs := prettyChars_object_append m rest level []
  have hlength := length_le_length_following (memberChars (level + 1)) (level + 1) rest
  rw [List.append_nil] at hcs
  rw [hcs]
  simp only [List.length_append, List.length_cons]
  omega

theorem skipSpace_object (hblanks : AreBlank blanks) (m : String × Json) (rest : Members)
    (level : Nat) (tail : List Char) :
    skipSpace (blanks ++ (prettyChars level (.object (m :: rest)) ++ tail)) =
      '\x7b' :: (line (level + 1) ++ (memberChars (level + 1) m ++
        (following (memberChars (level + 1)) (level + 1) rest ++
          (line level ++ '\x7d' :: tail)))) := by
  rw [prettyChars_object_append, skipSpace_append hblanks]
  rfl

section

variable {m : String × Json} {rest : Members}

theorem readsBack_record (h : ∀ n ∈ m :: rest, IsReadable fields false steps depth n)
    (hdistinct : (m :: rest).Pairwise fun n k => n.1 ≠ k.1)
    (hcomplete : checkComplete fields (m :: rest).reverse = .ok ()) :
    ReadsBack (rest.length + steps + 2) (depth + 1) (.record fields) (.object (m :: rest)) := by
  intro fuel level blanks tail hfuel hblanks _
  obtain ⟨fuel, rfl⟩ : ∃ more, fuel = more + 1 := Nat.exists_eq_add_of_le' (by omega)
  have hcs := skipSpace_object hblanks m rest level tail
  have hfirst : ∀ more, skipSpace (line (level + 1) ++ (memberChars (level + 1) m ++ more)) =
      [] ++ (memberChars (level + 1) m ++ more) := fun more => skipSpace_line_cons rfl _ _
  rw [readValue.eq_def]
  simp only [hcs, hfirst]
  rw [List.reverse_cons] at hcomplete
  exact readMembers_written h (fun _ _ _ hk => absurd hk List.not_mem_nil) hdistinct areBlank_nil
    (Nat.le_of_succ_le_succ hfuel) hcomplete

theorem readsBack_openRecord (h : ∀ n ∈ m :: rest, IsReadable fields true steps depth n)
    (hdistinct : (m :: rest).Pairwise fun n k => n.1 ≠ k.1)
    (hcomplete : checkComplete fields (m :: rest).reverse = .ok ()) :
    ReadsBack (rest.length + steps + 2) (depth + 1) (.openRecord fields) (.object (m :: rest)) := by
  intro fuel level blanks tail hfuel hblanks _
  obtain ⟨fuel, rfl⟩ : ∃ more, fuel = more + 1 := Nat.exists_eq_add_of_le' (by omega)
  have hcs := skipSpace_object hblanks m rest level tail
  have hfirst : ∀ more, skipSpace (line (level + 1) ++ (memberChars (level + 1) m ++ more)) =
      [] ++ (memberChars (level + 1) m ++ more) := fun more => skipSpace_line_cons rfl _ _
  rw [readValue.eq_def]
  simp only [hcs, hfirst]
  rw [List.reverse_cons] at hcomplete
  exact readMembers_written h (fun _ _ _ hk => absurd hk List.not_mem_nil) hdistinct areBlank_nil
    (Nat.le_of_succ_le_succ hfuel) hcomplete

end

/-- A text of a value that is read back. -/
theorem readAs_pretty {shape : Shape} (h : ReadsBack steps maxDepth shape value)
    (hsteps : steps ≤ enoughSteps value.pretty.toList + 64) :
    readAs shape value.pretty = .ok value := by
  have hvalue := h _ 0 [] [] hsteps areBlank_nil (by rintro c ⟨⟩)
  rw [List.nil_append, List.append_nil, ← toList_pretty] at hvalue
  rw [readAs, hvalue]
  rfl

end ScoreDeploy.Json
