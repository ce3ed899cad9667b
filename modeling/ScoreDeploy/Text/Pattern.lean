import ScoreDeploy.Text.Blank
import ScoreDeploy.Text.Numeral
import ScoreDeploy.Text.Word

/-!
# Patterns

A pattern describes texts: by characters, by classes of characters in brackets, by repetitions,
alternatives and groups. `isPattern` tells which texts are patterns.

Modes say how characters are taken. There are no tables of cases and of kinds of characters, so
where the characters of all scripts count, nothing may leave the case open, and no kind, no edge of
a word and no property can be named. Where bytes count, nothing may match a part of a character, as
anything that is not ASCII would.
-/

namespace ScoreDeploy.Text.Pattern

/-- How the characters of a pattern are taken. -/
structure Modes where
  /-- Capitals and small letters are alike. -/
  ignoresCase : Bool := false
  /-- The characters of all scripts count, and not bytes. -/
  hasAllScripts : Bool := true
  /-- Blanks mean nothing, nor does what follows a number sign up to the end of the line. -/
  isSpaced : Bool := false
deriving DecidableEq, Repr

/-- A part of a pattern that has no parts. -/
inductive Atom where
  /-- A character, which may be given as a byte. -/
  | char (c : Char) (isByte : Bool)
  /-- A kind of characters, or all others. -/
  | kind (isNegated : Bool)
  /-- A place at an end of the text or of a line. -/
  | place
  /-- A place where a word starts or ends. -/
  | wordEdge
deriving DecidableEq, Repr

namespace Modes

/-- Whether a set of characters can be told, if it can for bytes. -/
def knows (modes : Modes) (forBytes : Bool) : Bool :=
  if modes.hasAllScripts then !modes.ignoresCase else forBytes

/-- Whether an atom may stand in a pattern. -/
def allows (modes : Modes) : Atom → Bool
  | .char c isByte => modes.knows (!isByte || c.toNat < 128)
  | .kind isNegated => !modes.hasAllScripts && !isNegated
  | .place => true
  | .wordEdge => !modes.hasAllScripts

/-- Whether an atom may stand in brackets. -/
def allowsInClass (modes : Modes) : Atom → Bool
  | .char c _ => modes.knows (c.toNat < 128)
  | .kind isNegated => !modes.hasAllScripts && !isNegated
  | .place | .wordEdge => false

/-- Passes over blanks and comments. -/
def dropSpaces (inComment : Bool) : List Char → List Char
  | [] => []
  | c :: rest =>
    if inComment then dropSpaces (c != '\n') rest
    else if isBlank c then dropSpaces false rest
    else if c = '#' then dropSpaces true rest
    else c :: rest

/-- Passes over what means nothing. -/
def skip (modes : Modes) (cs : List Char) : List Char :=
  if modes.isSpaced then dropSpaces false cs else cs

/-- The character that comes next, where only the sign of a comment is passed over. -/
def peek (modes : Modes) (cs : List Char) : Option Char :=
  if modes.isSpaced then
    match cs.dropWhile isBlank with
    | '#' :: rest => (rest.dropWhile isBlank).head?
    | rest => rest.head?
  else cs.head?

/-- The modes after a change: those of the letters before a dash are on, and those after it off. -/
def changed (modes : Modes) (letters : List Char) : Modes :=
  let isOn := (letters.takeWhile (· != '-')).contains
  let next (letter : Char) (now : Bool) := isOn letter || (now && !letters.contains letter)
  ⟨next 'i' modes.ignoresCase, next 'u' modes.hasAllScripts, next 'x' modes.isSpaced⟩

end Modes

/-! ### Escapes -/

/-- The number that hexadecimal digits give, and what is left after them. -/
def hexNumber? (modes : Modes) : (digits : Nat) → (value : Nat) → List Char →
    Option (Nat × List Char)
  | 0, value, cs => some (value, cs)
  | _ + 1, _, [] => none
  | digits + 1, value, c :: rest => do
    hexNumber? modes digits (value * 16 + (← Numeral.digit? 16 c)) (modes.skip rest)

/-- The numbers of digits after the letters for characters by their codes. -/
def hexWidths : List (Char × Nat) := [('x', 2), ('u', 4), ('U', 8)]

/-- The control characters by their letters. -/
def controls : List (Char × Char) :=
  [('a', '\x07'), ('f', '\x0c'), ('t', '\t'), ('n', '\n'), ('r', '\r'), ('v', '\x0b')]

/-- The atoms by their letters. -/
def letterAtoms : List (Char × Atom) :=
  controls.map (fun (letter, c) => (letter, .char c false)) ++
  "dsw".toList.map (·, .kind false) ++ "DSW".toList.map (·, .kind true) ++
  "Az".toList.map (·, .place) ++ "bB<>".toList.map (·, .wordEdge)

/-- The atom after a backslash, and what is left. Signs stand for themselves. -/
def escape? (modes : Modes) : List Char → Option (Atom × List Char)
  | [] => none
  | c :: rest =>
    match hexWidths.lookup c with
    | some width => do
      let (code, rest) ← hexNumber? modes width 0 (modes.skip rest)
      guard code.isValidChar
      return (.char (Char.ofNat code) (c == 'x'), rest)
    | none =>
      match letterAtoms.lookup c with
      | some atom => some (atom, rest)
      | none => if c.toNat < 128 && !c.isAlphanum then some (.char c false, rest) else none

/-! ### Groups -/

/-- What a parenthesis opens. -/
inductive Opening where
  /-- A change of the modes, and no group. -/
  | change (letters : List Char)
  /-- A group with changed modes, which may have a name. -/
  | group (letters : List Char) (name : Option (List Char))

/-- The letters of a change of modes, what ends them, and what is left. No letter is repeated, and a
dash is not the last one. -/
def letters? (cs : List Char) : Option (List Char × Char × List Char) := do
  let isEnd c := c == ':' || c == ')'
  let letters := cs.takeWhile (!isEnd ·)
  guard (letters.all "imsUuRx-".toList.contains && letters.eraseDups == letters)
  guard (letters.getLast? != some '-')
  match cs.dropWhile (!isEnd ·) with
  | [] => none
  | c :: rest => some (letters, c, rest)

/-- The name up to an angle bracket, and what is left. -/
def name? (cs : List Char) : Option (List Char × List Char) := do
  let name := cs.takeWhile (· != '>')
  guard (name.head?.any fun c => c == '_' || isLetter c)
  guard (name.all fun c => isWordChar c || "_.[]".toList.contains c)
  match cs.dropWhile (· != '>') with
  | [] => none
  | _ :: rest => some (name, rest)

/-- What a parenthesis opens, and what is left after it. Looking around is not possible. -/
def opening? (modes : Modes) (cs : List Char) : Option (Opening × List Char) :=
  match modes.skip cs with
  | '?' :: '=' :: _ | '?' :: '!' :: _ | '?' :: '<' :: '=' :: _ | '?' :: '<' :: '!' :: _ => none
  | '?' :: 'P' :: '<' :: rest | '?' :: '<' :: rest => do
    let (name, rest) ← name? rest
    return (.group [] (some name), rest)
  | '?' :: rest => do
    let (letters, stop, rest) ← letters? rest
    if stop = ':' then return (.group letters none, rest)
    guard (!letters.isEmpty)
    return (.change letters, rest)
  | rest => some (.group [] none, rest)

/-! ### Nesting -/

/-- Parts that follow each other. -/
structure Row where
  count : Nat := 0
  /-- The greatest height of the parts before the last one. -/
  before : Nat := 0
  /-- The height of the last part. -/
  last : Nat := 0
  /-- Whether the last part may be repeated. -/
  mayRepeat : Bool := false

/-- The height of the whole row. -/
def Row.height (row : Row) : Nat :=
  if row.count ≤ 1 then row.last else max row.before row.last + 1

/-- Alternatives, or classes that are combined, the last of which is being read. -/
structure Level where
  row : Row := {}
  /-- The height of those before the row. -/
  before : Option Nat := none
  /-- Whether there is nothing but dashes yet. -/
  isFresh : Bool := true

namespace Level

/-- The height of the whole. -/
def height (level : Level) : Nat :=
  match level.before with
  | none => level.row.height
  | some before => max before level.row.height + 1

/-- Adds a part. -/
def add (level : Level) (height : Nat) (mayRepeat : Bool) : Level :=
  let row := level.row
  { level with
    row := ⟨row.count + 1, max row.before row.last, height, mayRepeat⟩
    isFresh := false }

/-- Repeats the last part. -/
def repeated (level : Level) : Level :=
  { level with row := { level.row with last := level.row.last + 1 } }

/-- Starts another alternative. -/
def otherwise (level : Level) : Level :=
  { before := some (max (level.before.getD 0) level.row.height) }

/-- Starts a class that is combined with all before it. -/
def combined (level : Level) : Level :=
  { before := some level.height, isFresh := false }

end Level

/-- The greatest height of a pattern. -/
def maxHeight : Nat := 250

/-! ### Reading -/

/-- A pattern that is being read. -/
structure Progress where
  modes : Modes := {}
  level : Level := {}
  /-- The modes and the levels around the group that is being read, the innermost first. -/
  groups : List (Modes × Level) := []
  /-- The brackets that are open, the innermost first. -/
  classes : List Level := []
  /-- The names of groups. -/
  names : List (List Char) := []

namespace Progress

/-- Adds a part outside of brackets. -/
def add (p : Progress) (height : Nat) : Progress :=
  { p with level := p.level.add height true }

/-- Goes on after an opening parenthesis. -/
def enter? (p : Progress) : Opening → Option Progress
  | .change letters =>
    some { p with modes := p.modes.changed letters, level := p.level.add 0 false }
  | .group letters name =>
    if name.any p.names.contains then none
    else some { p with
      modes := p.modes.changed letters, level := {}, groups := (p.modes, p.level) :: p.groups
      names := name.toList ++ p.names }

/-- Goes on after a closing parenthesis. -/
def leave? (p : Progress) : Option Progress :=
  match p.groups with
  | [] => none
  | (modes, level) :: groups =>
    some { p with modes, groups, level := level.add (p.level.height + 1) true }

/-- Goes on after an opening bracket. -/
def openClass? (p : Progress) (cs : List Char) : Option (Progress × List Char) :=
  match p.modes.skip cs with
  | '^' :: rest =>
    if p.modes.hasAllScripts then some ({ p with classes := {} :: p.classes }, rest) else none
  | rest => some ({ p with classes := {} :: p.classes }, rest)

/-- Goes on after a closing bracket. -/
def closeClass (p : Progress) : Progress :=
  match p.classes with
  | [] => p
  | [level] => { p with classes := [] }.add (level.height + 1)
  | level :: outer :: more => { p with classes := outer.add (level.height + 1) true :: more }

/-- The step outside of brackets, and what is left after it. -/
def step? (p : Progress) (c : Char) (rest : List Char) : Option (Progress × List Char) :=
  match c with
  | '(' => do
    let (opening, rest) ← opening? p.modes rest
    return (← p.enter? opening, rest)
  | ')' => p.leave?.map (·, rest)
  | '[' => p.openClass? rest
  | '|' => some ({ p with level := p.level.otherwise }, rest)
  | '?' | '*' | '+' =>
    if p.level.row.mayRepeat then
      some ({ p with level := p.level.repeated }, if rest.head? = some '?' then rest.tail else rest)
    else none
  | '\\' => do
    let (atom, rest) ← escape? p.modes rest
    guard (p.modes.allows atom)
    return (p.add 0, rest)
  | '\x7b' => none
  | '.' => if p.modes.hasAllScripts then some (p.add 0, rest) else none
  | '^' | '$' => some (p.add 0, rest)
  | c => if p.modes.allows (.char c false) then some (p.add 0, rest) else none

end Progress

/-! ### Classes -/

/-- The classes of ASCII by their names. -/
def classNames : List String :=
  ["alnum", "alpha", "ascii", "blank", "cntrl", "digit", "graph", "lower", "print", "punct",
    "space", "upper", "word", "xdigit"]

/-- Whether a class of ASCII with a name is negated, and what is left after it. -/
def namedClass? (cs : List Char) : Option (Bool × List Char) :=
  match cs with
  | ':' :: rest =>
    let isNegated := rest.head? == some '^'
    let rest := if isNegated then rest.tail else rest
    let name := rest.takeWhile (· != ':')
    match rest.dropWhile (· != ':') with
    | ':' :: ']' :: left =>
      if classNames.contains (String.ofList name) then some (isNegated, left) else none
    | _ => none
  | _ => none

/-- The atom that a character in brackets starts, and what is left. -/
def classAtom? (modes : Modes) (c : Char) (rest : List Char) : Option (Atom × List Char) := do
  let (atom, rest) ← if c = '\\' then escape? modes rest else some (.char c false, rest)
  guard (modes.allowsInClass atom)
  return (atom, rest)

/-- What is left after the atom or the range of characters that a character in brackets starts. -/
def member? (modes : Modes) (c : Char) (rest : List Char) : Option (List Char) := do
  let (first, rest) ← classAtom? modes c rest
  match modes.skip rest with
  | '-' :: rest =>
    if modes.peek rest = some ']' ∨ modes.peek rest = some '-' then some ('-' :: rest)
    else
      match modes.skip rest with
      | [] => none
      | c :: rest => do
        let (last, rest) ← classAtom? modes c rest
        match first, last with
        | .char a _, .char b _ => if a ≤ b then some rest else none
        | _, _ => none
  | rest => some rest

namespace Progress

/-- Puts something into the innermost brackets, or starts another class there. -/
def inClass (p : Progress) (change : Level → Level) : Progress :=
  match p.classes with
  | [] => p
  | level :: more => { p with classes := change level :: more }

/-- The step in brackets, and what is left after it. Dashes at the start stand for themselves, and
so does a closing bracket. -/
def classStep? (p : Progress) (level : Level) (c : Char) (rest : List Char) :
    Option (Progress × List Char) :=
  if level.isFresh ∧ c = '-' then do
    discard (classAtom? p.modes c rest)
    return (p.inClass fun level => { level.add 0 true with isFresh := true }, rest)
  else if level.isFresh ∧ level.row.count = 0 ∧ c = ']' then do
    discard (classAtom? p.modes c rest)
    return (p.inClass (·.add 0 true), rest)
  else if c = ']' then some (p.closeClass, rest)
  else if "&-~".toList.contains c ∧ rest.head? = some c then
    some (p.inClass Level.combined, rest.tail)
  else if c = '[' then
    match namedClass? rest with
    | some (isNegated, rest) =>
      if p.modes.knows (!isNegated) then some (p.inClass (·.add 0 true), rest) else none
    | none => p.openClass? rest
  else do
    let rest ← member? p.modes c rest
    return (p.inClass (·.add 0 true), rest)

/-- Reads on; the next characters, as many as `passed` tells, have been read already. -/
def read? (passed : Nat) (p : Progress) : List Char → Option Progress
  | [] => some p
  | c :: rest =>
    match passed with
    | passed + 1 => p.read? passed rest
    | 0 => do
      let (p, left) ←
        if p.modes.isSpaced ∧ isBlank c then some (p, rest)
        else if p.modes.isSpaced ∧ c = '#' then some (p, Modes.dropSpaces true rest)
        else
          match p.classes with
          | [] => p.step? c rest
          | level :: _ => p.classStep? level c rest
      p.read? (rest.length - left.length) rest

/-- Whether a pattern may end here. -/
def isComplete (p : Progress) : Bool :=
  p.groups.isEmpty && p.classes.isEmpty && p.level.height ≤ maxHeight

end Progress

/-- Whether a text is a pattern. -/
def isPattern (cs : List Char) : Bool :=
  (Progress.read? 0 {} cs).any Progress.isComplete

end ScoreDeploy.Text.Pattern
