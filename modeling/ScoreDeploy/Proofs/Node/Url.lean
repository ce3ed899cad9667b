import ScoreDeploy.Node.Url
import ScoreDeploy.Proofs.Text.Trimming

/-!
# One form for the addresses of a node

A base is left when slashes are taken from the end of a text, and then copies of the interface path.
`trimmedBase_eq_iff` says which texts leave a given base. Taking away the path may bring a slash to
the end, which stays there; no base that is left ends in the path itself, so the main address of a
node is a text that leaves the same base again.
-/

namespace ScoreDeploy.Node

open Text

variable {base text : String} {cs : List Char} {j k : Nat}

/-- The path of the interface, the last character first. -/
def reversedPath : List Char :=
  "/api/v3".toList.reverse

/-! ### Copies of the path -/

theorem dropReversedPath_append (cs : List Char) :
    dropReversedPath (reversedPath ++ cs) = dropReversedPath cs :=
  rfl

theorem dropReversedPath_replicate (j : Nat) (cs : List Char) :
    dropReversedPath ((List.replicate j reversedPath).flatten ++ cs) = dropReversedPath cs := by
  induction j with
  | zero => rfl
  | succ j ih =>
    rw [List.replicate_succ, List.flatten_cons, List.append_assoc, dropReversedPath_append, ih]

theorem dropReversedPath_eq_self (h : ¬reversedPath <+: cs) : dropReversedPath cs = cs := by
  unfold dropReversedPath
  split
  · next rest => exact absurd ⟨rest, rfl⟩ h
  · rfl

theorem not_prefix_dropReversedPath (cs : List Char) : ¬reversedPath <+: dropReversedPath cs := by
  fun_induction dropReversedPath cs with
  | case1 rest ih => exact ih
  | case2 cs hne =>
    rintro ⟨rest, rfl⟩
    exact hne rest rfl

theorem exists_replicate_append (cs : List Char) :
    ∃ j, (List.replicate j reversedPath).flatten ++ dropReversedPath cs = cs := by
  fun_induction dropReversedPath cs with
  | case1 rest ih =>
    obtain ⟨j, hj⟩ := ih
    refine ⟨j + 1, ?_⟩
    rw [List.replicate_succ, List.flatten_cons, List.append_assoc, hj]
    rfl
  | case2 cs _ => exact ⟨0, rfl⟩

/-! ### Bases -/

/-- A base, so many copies of the path behind it, and so many slashes behind these. -/
def spelled (base : List Char) (j k : Nat) : List Char :=
  base ++ (List.replicate j "/api/v3".toList).flatten ++ List.replicate k '/'

theorem toList_trimmedBase (text : String) :
    (trimmedBase text).toList =
      (dropReversedPath (dropEndWhile (· == '/') text.toList).reverse).reverse := by
  rw [trimmedBase, String.toList_ofList]

theorem reverse_copies (j : Nat) :
    (List.replicate j "/api/v3".toList).flatten.reverse =
      (List.replicate j reversedPath).flatten := by
  rw [List.reverse_flatten, List.map_replicate, List.reverse_replicate]
  rfl

/-- No slash is at the end of a base, or copies of the path are behind it. -/
theorem ne_slash_of_mem_getLast? (h : j = 0 → ¬"/".toList <:+ cs) :
    ∀ c ∈ (cs ++ (List.replicate j "/api/v3".toList).flatten).getLast?, (c == '/') = false := by
  intro c hc
  cases j with
  | zero =>
    rw [List.replicate_zero, List.flatten_nil, List.append_nil] at hc
    obtain ⟨front, rfl⟩ := List.getLast?_eq_some_iff.mp hc
    rw [beq_eq_false_iff_ne]
    rintro rfl
    exact h rfl ⟨front, rfl⟩
  | succ j =>
    rw [List.replicate_succ', List.flatten_append, List.flatten_singleton, ← List.append_assoc,
      List.getLast?_append] at hc
    obtain rfl : '3' = c := Option.some.inj hc
    rfl

/-- A text leaves a base behind that does not end in the path and that is followed by copies of the
path and then by slashes; where there are no copies, the base does not end in a slash either. -/
theorem trimmedBase_eq_iff :
    trimmedBase text = base ↔ ¬"/api/v3".toList <:+ base.toList ∧
      ∃ j k, text.toList = spelled base.toList j k ∧ (j = 0 → ¬"/".toList <:+ base.toList) := by
  constructor
  · rintro rfl
    rw [toList_trimmedBase]
    obtain ⟨back, hback, hslash⟩ := exists_dropEndWhile_append (· == '/') text.toList
    have hlast : ∀ c ∈ (dropEndWhile (· == '/') text.toList).getLast?, (c == '/') = false :=
      fun c => eq_false_of_mem_getLast?
    -- From here on only the text without its last slashes matters.
    revert hback hlast
    generalize dropEndWhile (· == '/') text.toList = left
    intro hback hlast
    obtain ⟨j, hj⟩ := exists_replicate_append left.reverse
    have hleft : (dropReversedPath left.reverse).reverse ++
        (List.replicate j "/api/v3".toList).flatten = left := by
      rw [← List.reverse_inj, List.reverse_append, List.reverse_reverse, reverse_copies, hj]
    refine ⟨fun hsuffix => ?_, j, back.length, ?_, ?_⟩
    · rw [← List.reverse_prefix, List.reverse_reverse] at hsuffix
      exact not_prefix_dropReversedPath _ hsuffix
    · rw [spelled, hleft, ← hback, List.eq_replicate_of_mem fun c hc => beq_iff_eq.mp (hslash c hc),
        List.length_replicate]
    · rintro rfl ⟨front, hfront⟩
      rw [List.replicate_zero, List.flatten_nil, List.append_nil] at hleft
      rw [hleft] at hfront
      rw [← hfront] at hlast
      exact absurd (hlast '/' (by simp)) (by decide)
  · rintro ⟨hpath, j, k, htext, hslash⟩
    have hslashes : ∀ c ∈ List.replicate k '/', (c == '/') = true :=
      fun c hc => beq_iff_eq.mpr (List.eq_of_mem_replicate hc)
    rw [← String.toList_inj, toList_trimmedBase, htext, spelled,
      dropEndWhile_append_of_forall hslashes,
      dropEndWhile_eq_self (ne_slash_of_mem_getLast? hslash),
      List.reverse_append, reverse_copies, dropReversedPath_replicate, dropReversedPath_eq_self,
      List.reverse_reverse]
    rwa [reversedPath, List.reverse_prefix]

theorem not_suffix_trimmedBase (text : String) :
    ¬"/api/v3".toList <:+ (trimmedBase text).toList :=
  (trimmedBase_eq_iff.mp rfl).1

theorem trimmedBase_append_path (h : ¬"/api/v3".toList <:+ base.toList) :
    trimmedBase (base ++ "/api/v3") = base :=
  trimmedBase_eq_iff.mpr ⟨h, 1, 0, by simp [spelled], by simp⟩

theorem trimmedBase_append_slashes (text : String) (k : Nat) :
    trimmedBase (text ++ String.ofList (List.replicate k '/')) = trimmedBase text := by
  have hslashes : ∀ c ∈ List.replicate k '/', (c == '/') = true :=
    fun c hc => beq_iff_eq.mpr (List.eq_of_mem_replicate hc)
  rw [trimmedBase, trimmedBase, String.toList_append, String.toList_ofList,
    dropEndWhile_append_of_forall hslashes]

/-! ### Addresses -/

/-- A base that ends neither in a slash nor in the path gives its addresses in all spellings, with
any number of copies of the path and of slashes behind it. Whatever text is given, the main address
stands for the same node again, slashes behind the text make no difference, and estimates have the
main address with one more letter. -/
theorem Urls.ofBase_of_spellings (base text : String) (j k : Nat) :
    (¬"/".toList <:+ base.toList → ¬"/api/v3".toList <:+ base.toList →
      ofBase (base ++ String.join (List.replicate j "/api/v3") ++
          String.ofList (List.replicate k '/')) = ⟨base ++ "/api/v3", base ++ "/api/v3d"⟩) ∧
      ofBase (ofBase text).main = ofBase text ∧
      ofBase (text ++ String.ofList (List.replicate k '/')) = ofBase text ∧
      (ofBase text).debug = (ofBase text).main ++ "d" := by
  refine ⟨fun hslash hpath => ?_, ?_, ?_, ?_⟩
  · have hbase : trimmedBase (base ++ String.join (List.replicate j "/api/v3") ++
        String.ofList (List.replicate k '/')) = base :=
      trimmedBase_eq_iff.mpr
        ⟨hpath, j, k, by simp [spelled, List.flatMap_replicate], fun _ => hslash⟩
    rw [ofBase, hbase]
  · have hsame : trimmedBase (ofBase text).main = trimmedBase text :=
      trimmedBase_append_path (not_suffix_trimmedBase text)
    rw [ofBase, hsame, ofBase]
  · rw [ofBase, trimmedBase_append_slashes, ofBase]
  · rw [ofBase, String.append_assoc]
    rfl

/-- Two copies of the path and two slashes make no difference. A slash in front of a copy stays
where it is. -/
theorem Urls.ofBase_of_spellings_local :
    ofBase "http://h:9082/api/v3/api/v3//" = ⟨"http://h:9082/api/v3", "http://h:9082/api/v3d"⟩ ∧
      ofBase (ofBase "http://h//api/v3").main = ofBase "http://h//api/v3" := by
  obtain ⟨hspelled, -, -, -⟩ := ofBase_of_spellings "http://h:9082" "" 2 2
  obtain ⟨-, hagain, -, -⟩ := ofBase_of_spellings "" "http://h//api/v3" 0 0
  exact ⟨hspelled (by decide) (by decide), hagain⟩

end ScoreDeploy.Node
