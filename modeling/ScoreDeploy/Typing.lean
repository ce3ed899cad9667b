import ScoreDeploy.Text.Blank

/-!
# Typing unseen

Somebody who types a password does not see it. The keys that take back what was typed work all the
same, other keys of control are passed over, and so is what a key with a name of its own sends: an
escape and the characters after it. `read` takes the characters that come from the keyboard up to
the end of the line.
-/

namespace ScoreDeploy

namespace Typing

/-- What the next character belongs to. -/
inductive Mode where
  /-- The line itself. -/
  | line
  /-- What a key sends, and only its escape has come. -/
  | escape
  /-- What a key sends, up to a letter. -/
  | sequence
deriving DecidableEq, Repr

/-- A line that is being typed. -/
structure Entry where
  mode : Mode := .line
  /-- The characters so far, the last one first. -/
  typed : List Char := []
  /-- How many characters are taken to be on the screen. -/
  shown : Nat := 0
  /-- What was written to the screen. -/
  screen : String := ""
deriving DecidableEq, Repr

namespace Entry

/-- Takes back the last characters. As many of them as may be on the screen are written over. -/
def takeBack (entry : Entry) (count : Nat) : Entry :=
  let erased := min count entry.shown
  { entry with
    typed := entry.typed.drop count
    shown := entry.shown - erased
    screen := entry.screen ++ String.join (List.replicate erased "\x08 \x08") }

/-- Takes back the last character. -/
def eraseOne (entry : Entry) : Entry :=
  entry.takeBack 1

/-- The number of characters of the last word and of the blanks after it. A word starts after a
space, but any blanks at the end go with it. -/
def lastWordLength (typed : List Char) : Nat :=
  let blanks := typed.takeWhile Text.isBlank
  let word := (typed.drop blanks.length).takeWhile (· != ' ')
  blanks.length + word.length

/-- Takes back the last word. What is left is taken to be on the screen from then on. -/
def eraseWord (entry : Entry) : Entry :=
  let entry := entry.takeBack (lastWordLength entry.typed)
  { entry with shown := entry.typed.length }

/-- Takes back the whole line. -/
def eraseAll (entry : Entry) : Entry :=
  entry.takeBack entry.typed.length

/-- The line that was typed. -/
def text (entry : Entry) : String :=
  String.ofList entry.typed.reverse

end Entry

/-- Whether a character is a control character. -/
def isControl (c : Char) : Bool :=
  c.toNat < 0x20 || (0x7F ≤ c.toNat && c.toNat < 0xA0)

/-- What comes of a character, if the line goes on. -/
def Entry.after (entry : Entry) (c : Char) : Entry :=
  match entry.mode with
  | .escape => { entry with mode := if c = '[' ∨ c = 'O' then .sequence else .line }
  | .sequence => { entry with mode := if '@' ≤ c ∧ c ≤ '~' then .line else .sequence }
  | .line =>
    if c = '\x1b' then { entry with mode := .escape }
    else if c = '\x7f' ∨ c = '\x08' then entry.eraseOne
    else if c = '\x15' then entry.eraseAll
    else if c = '\x17' then entry.eraseWord
    else if isControl c then entry
    else { entry with typed := c :: entry.typed }

end Typing

/-- What comes of a question for a line. -/
inductive Typed where
  /-- The line. -/
  | line (text : String)
  /-- There is no line, because nothing more comes. -/
  | ended
  /-- The run is to stop. -/
  | interrupted
deriving DecidableEq, Repr

namespace Typing

/-- What comes of typing. -/
structure Outcome where
  typed : Typed
  /-- What was written to the screen. -/
  screen : String
  /-- The characters that come next. -/
  rest : List Char
deriving DecidableEq, Repr

/-- Reads a line. It ends with a line feed or a carriage return. There is none when nothing more
comes, or with the character for the end of a text where the line is still empty; and another
character stops the run. -/
def readFrom (entry : Entry) : List Char → Outcome
  | [] => ⟨.ended, entry.screen, []⟩
  | c :: rest =>
    if entry.mode = .line ∧ (c = '\n' ∨ c = '\r') then
      ⟨.line entry.text, entry.screen ++ "\n", rest⟩
    else if entry.mode = .line ∧ c = '\x03' then
      ⟨.interrupted, entry.screen ++ "\n", rest⟩
    else if entry.mode = .line ∧ c = '\x04' ∧ entry.typed = [] then
      ⟨.ended, entry.screen, rest⟩
    else readFrom (entry.after c) rest

/-- Reads a line from its start. -/
def read (cs : List Char) : Outcome :=
  readFrom {} cs

example : read "a b\x17\x17pw\n".toList = ⟨.line "pw", "\x08 \x08\x08 \x08\n", []⟩ := by
  decide +kernel

example : (read "p\x1b[1;5Cw\r".toList).typed = .line "pw" := by decide +kernel

end Typing

end ScoreDeploy
