/-!
# Parts of a text

Paths, rules of a filter and names of machines are texts whose parts stand between separators.
`parts` gives them in order. There is always one more part than there are separators, so parts may
be empty.
-/

namespace ScoreDeploy.Text

/-- The parts of a text between the characters that pass the test. -/
def parts (separates : Char → Bool) : List Char → List (List Char)
  | [] => [[]]
  | c :: rest =>
    if separates c then [] :: parts separates rest
    else
      match parts separates rest with
      | [] => [[c]]
      | first :: others => (c :: first) :: others

theorem parts_ne_nil (separates : Char → Bool) (cs : List Char) : parts separates cs ≠ [] := by
  unfold parts
  split
  · simp
  · split
    · simp
    · split <;> simp

end ScoreDeploy.Text
