import ScoreDeploy.Text.Composition
import ScoreDeploy.Text.Direction
import ScoreDeploy.Text.Joining
import ScoreDeploy.Text.Parts
import ScoreDeploy.Url.Forms
import ScoreDeploy.Url.Punycode

/-!
# Names of machines

A name consists of labels between points. Each character is replaced by what it stands for, and
letters are put together with their marks. A name has to be clear: a label does not start with a
mark, joiners and separators are of use, and labels do not run into each other where directions
meet. It is kept in ASCII: a label that has other characters is written as `xn--` and its form in
ASCII. A label that is given in that form has to be one that could be written so.
-/

namespace ScoreDeploy.Url.Name

/-- Whether a character is one of ASCII. -/
def isPlain (c : Char) : Bool :=
  c.toNat < 128

/-- What a label in ASCII starts with, if it stands for one with other characters. -/
def mark : List Char := "xn--".toList

/-- The greatest number of characters of a label that is written in ASCII. -/
def maxWritten : Nat := 1000

/-- The greatest number of characters after the mark of a label that is read from ASCII. -/
def maxRead : Nat := 2000

/-- Whether a label may be written in ASCII: not all its characters are plain, and it is its own
form. -/
def isWritable (label : List Char) : Bool :=
  !label.all isPlain && (label.all fun c => form? c == some [c]) && Text.composed label == label

/-- The label that a label in ASCII stands for. -/
def meaning? (label : List Char) : Option (List Char) := do
  if mark.isPrefixOf label then
    let digits := label.drop mark.length
    guard (digits.length ≤ maxRead)
    let meaning ← Punycode.read? digits
    guard (isWritable meaning)
    return meaning
  else
    guard (label.all isPlain || label.length ≤ maxWritten)
    return label

/-- Whether a label can be told from others by its looks. -/
def isSound (label : List Char) : Bool :=
  !label.head?.any Text.isMark && Text.joinsWell [] label

/-- A label in ASCII. -/
def written (label : List Char) : List Char :=
  if label.all isPlain then label else mark ++ Punycode.write label

/-- Whether a character may stand in a name. -/
def isAllowed (c : Char) : Bool :=
  0x20 < c.toNat && c.toNat < 0x7F && !"#%/:<>?@[\\]^|".toList.contains c

/-- The labels of the name that a text denotes. -/
def labels? (text : String) : Option (List (List Char)) := do
  let forms := Text.composed (← text.toList.mapM form?).flatten
  let meanings ← (Text.parts (· == '.') forms).mapM meaning?
  guard (meanings.all isSound && Text.Direction.areClear meanings)
  let labels := meanings.map written
  guard (labels.all fun label => label.all isAllowed)
  return labels

end ScoreDeploy.Url.Name
