/-!
# Blank characters and trimming

`isBlank` is the White_Space property of the Unicode character database, which is wider than the
four characters that `Char.isWhitespace` knows. `trimBlanks` drops blanks from both ends of a text
and nothing else.
-/

namespace ScoreDeploy.Text

/-- The characters with the White_Space property: the ASCII controls from tab to carriage return,
the space, next line, no-break space, and the spaces and separators of the general punctuation
blocks. -/
def isBlank (c : Char) : Bool :=
  let n := c.toNat
  (9 ≤ n && n ≤ 13) || n == 0x20 || n == 0x85 || n == 0xA0 || n == 0x1680 ||
    (0x2000 ≤ n && n ≤ 0x200A) || n == 0x2028 || n == 0x2029 || n == 0x202F ||
    n == 0x205F || n == 0x3000

/-- The list without the longest end whose members all satisfy `p`. -/
def dropEndWhile {α : Type} (p : α → Bool) (l : List α) : List α :=
  (l.reverse.dropWhile p).reverse

/-- The text without the blanks at its two ends. -/
def trimBlanks (cs : List Char) : List Char :=
  dropEndWhile isBlank (cs.dropWhile isBlank)

end ScoreDeploy.Text
