import ScoreDeploy.Text.Blank
import ScoreDeploy.Text.Parts

/-!
# Paths

A path is a text whose components are separated by slashes. `join` and `parent?` work on the text
alone: nothing is resolved, and what is not cut off stays as it was written.
-/

namespace ScoreDeploy

/-- The text of a path. -/
abbrev Path := String

namespace Path

/-- Whether a path starts at the root. -/
def isAbsolute (path : Path) : Bool :=
  path.toList.head? == some '/'

/-- A path below another one. An absolute path stands for itself, and an empty one only leaves a
slash at the end. -/
def join (base part : Path) : Path :=
  if part.isAbsolute || base.isEmpty then part
  else if base.toList.getLast? == some '/' then base ++ part
  else base ++ "/" ++ part

/-- The components of a path in order; an empty path has one empty component. -/
def components (path : Path) : List String :=
  (Text.parts (· == '/') path.toList).map String.ofList

/-- The path without the slashes at its end, of which the root keeps one. -/
def withoutSlashes (path : Path) : Path :=
  let kept := Text.dropEndWhile (· == '/') path.toList
  if kept.isEmpty then "/" else String.ofList kept

/-- Whether the last component of a path is a single point, and there are others. -/
def endsInPoint (path : Path) : Bool :=
  match path.withoutSlashes.toList.reverse with
  | '.' :: '/' :: _ => true
  | _ => false

/-- The number of characters at the start that name the root or the current directory. -/
def leadLength : List Char → Nat
  | '/' :: _ => 1
  | ['.'] => 1
  | '.' :: '/' :: _ => 1
  | _ => 0

/-- Drops slashes, and components that are a single point, from the front of a reversed text, which
is the end of a path. -/
def dropEmptyEnd : List Char → List Char
  | '/' :: rest => dropEmptyEnd rest
  | '.' :: '/' :: rest => dropEmptyEnd rest
  | ['.'] => []
  | cs => cs

/-- The path without its last component; nothing lies above the root and the empty path. -/
def parent? (path : Path) : Option Path :=
  let cs := path.toList
  let lead := cs.take (leadLength cs)
  let body := dropEmptyEnd (cs.drop (leadLength cs)).reverse
  if body.isEmpty then
    if lead = ['.'] then some "" else none
  else
    let above := dropEmptyEnd (body.dropWhile (· != '/'))
    some (String.ofList (lead ++ above.reverse))

end Path

end ScoreDeploy
