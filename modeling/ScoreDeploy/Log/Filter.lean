import ScoreDeploy.Bytes.Basic
import ScoreDeploy.Log.Event
import ScoreDeploy.Text.Blank
import ScoreDeploy.Text.Numeral
import ScoreDeploy.Text.Parts
import ScoreDeploy.Text.Pattern
import ScoreDeploy.Text.Word

/-!
# Log filters

A filter tells which events are shown. It is a list of rules, each of which lets events up to a
level pass: all of them, or those of one part of the program, or those that have a certain field.
For an event the most specific rule counts.

The text of a filter has its rules separated by commas. A rule is a level; or the name of a part,
then perhaps a field in braces and brackets, then perhaps an equals sign and a level. What stands in
the brackets before the braces, and a value of the field, ask for something that is around an event.
Nothing ever is, so rules with those let nothing pass. A value is a number or a pattern all the
same.
-/

namespace ScoreDeploy.Log

/-- Lets events up to a level pass. -/
structure Rule where
  /-- The start of the names of the parts that the rule is for, unless it is for all. -/
  source : Option String := none
  /-- The field that an event must have, if any. -/
  field : Option String := none
  /-- Whether there must be something around the event. -/
  needsSpan : Bool := false
  /-- The rank of the last level that passes; zero for none. -/
  rank : Nat
deriving DecidableEq, Repr

/-- Which events are shown. -/
abbrev Filter := List Rule

namespace Filter

/-! ### Reading -/

/-- The ranks of the levels by their names in small letters, and of no level at all. -/
def ranks : List (String × Nat) :=
  [("off", 0), ("error", 1), ("warn", 2), ("info", 3), ("debug", 4), ("trace", 5)]

/-- The rank that a text names, in letters of either case or as a number. -/
def rank? (cs : List Char) : Option Nat :=
  match Numeral.read 10 6 cs with
  | .ok rank => some rank
  | .error _ => ranks.lookup (String.ofList (cs.map Char.toLower))

/-- The rank after an equals sign; without any, everything passes. -/
def rankOrAll? (cs : List Char) : Option Nat :=
  if cs.isEmpty then some 5 else rank? cs

/-- The characters of a rule, each with the bytes that are taken in its place. They differ where
blanks come first: the blanks do not count for what the characters mean, but are taken along. -/
abbrev Marks := List (Char × Bytes)

/-- The characters with the bytes at their places. -/
def Marks.along (bytes : Bytes) : List Char → Marks
  | [] => []
  | c :: rest => (c, bytes.take c.utf8Size) :: along (bytes.drop c.utf8Size) rest

/-- What is taken for the characters; `tail` is taken after the last one. -/
def Marks.taken? (marks : Marks) (tail : Bytes) : Option (List Char) :=
  (Bytes.toText? (marks.flatMap Prod.snd ++ tail)).map String.toList

/-- The marks before and from the first character that passes the test. -/
def Marks.cut (stops : Char → Bool) (marks : Marks) : Marks × Marks :=
  (marks.takeWhile fun m => !stops m.1, marks.dropWhile fun m => !stops m.1)

/-- Reads what stands after the brackets of a rule; `tail` is taken after the last character. -/
def withLevel? (rule : Rule) (tail : Bytes) (marks : Marks) : Option Rule :=
  match marks with
  | [] => some rule
  | ('=', _) :: level => do
    return { rule with rank := ← rankOrAll? (← Marks.taken? level tail) }
  | _ => none

/-- Whether a text is a number without a sign, with or without a point and an exponent. -/
def isNumber (cs : List Char) : Bool :=
  let whole := cs.takeWhile Char.isDigit
  let rest := cs.dropWhile Char.isDigit
  let fraction := if rest.head? = some '.' then rest.tail.takeWhile Char.isDigit else []
  let rest := if rest.head? = some '.' then rest.tail.dropWhile Char.isDigit else rest
  let hasDigits := !(whole ++ fraction).isEmpty
  match rest with
  | [] => hasDigits
  | e :: power =>
    let digits := if power.head?.any "+-".toList.contains then power.tail else power
    hasDigits && e.toLower == 'e' && !digits.isEmpty && digits.all Char.isDigit

/-- The names of the numbers that have no digits, in small letters. -/
def numberNames : List String :=
  ["inf", "infinity", "nan"]

/-- Whether a text is the value of a field. Numbers are patterns, unless they start with a plus
sign. -/
def isValue : List Char → Bool
  | '+' :: cs => isNumber cs || numberNames.contains (String.ofList (cs.map Char.toLower))
  | cs => Text.Pattern.isPattern cs

/-- The value after the name of a field, up to the next equals sign. -/
def valueIn? (field : List Char) : Option (List Char) :=
  match field.dropWhile (· != '=') with
  | [] => none
  | _ :: value => some (value.takeWhile (· != '='))

/-- Reads what stands after the opening bracket of a rule. -/
def withBrackets? (source : Option String) (tail : Bytes) (marks : Marks) : Option Rule :=
  let (span, rest) := Marks.cut (fun c => c == ']' || c == '\x7b') marks
  match rest with
  | (']', _) :: rest => withLevel? { source, needsSpan := true, rank := 5 } tail rest
  | (_, _) :: rest => do
    let (field, rest) := Marks.cut (· == '\x7d') rest
    let given ← Marks.taken? field []
    let value := valueIn? given
    match rest with
    | _ :: (']', _) :: rest =>
      guard (!field.isEmpty && value.all isValue)
      withLevel? {
        source, field := some (String.ofList (given.takeWhile (· != '=')))
        needsSpan := !span.isEmpty || value.isSome, rank := 5 } tail rest
    | _ => none
  | [] => none

/-- Whether a rule may start with a character, apart from a bracket. -/
def startsName (c : Char) : Bool :=
  Text.isWordChar c || c == '-' || c == ':' || c == '_'

/-- The rule that a text denotes. -/
def rule? (cs : List Char) : Option Rule :=
  let trimmed := Text.trimBlanks cs
  let bytes := Bytes.utf8Chars cs
  let tail := bytes.drop (Bytes.utf8Chars trimmed).length
  match Marks.along bytes trimmed with
  | [] => none
  | ('[', _) :: rest => withBrackets? none tail rest
  | marks => do
    let (name, rest) := Marks.cut (fun c => c == '=' || c == '[') marks
    guard (name.head?.any fun m => startsName m.1)
    match rest with
    | [] =>
      let whole ← Marks.taken? name tail
      match rank? whole with
      | some rank => return { rank }
      | none => return { source := some (String.ofList whole), rank := 5 }
    | (c, _) :: level =>
      let source := some (String.ofList (← Marks.taken? name []))
      if c = '[' then withBrackets? source tail level
      else withLevel? { source, rank := 5 } tail rest

/-- The filter that a text denotes. Empty rules are left out; without any rule only errors pass. -/
def ofText? (text : String) : Option Filter := do
  let given := (Text.parts (· == ',') text.toList).filter fun cs => !cs.isEmpty
  let rules ← given.mapM rule?
  return if rules.isEmpty then [{ rank := 1 }] else rules

/-- The filter where none is given: warnings of others, and of the program itself also the course of
a run, in full when asked for. -/
def standard (verbose : Bool) : Filter :=
  [{ rank := 2 }, { source := some "icon_deploy", rank := if verbose then 4 else 3 }]

/-- The filter for a run. A text that denotes none is as good as no text. -/
def forRun (given : Option String) (verbose : Bool) : Filter :=
  (given.bind ofText?).getD (standard verbose)

/-! ### Filtering -/

/-- The names of the fields of an event, of which the message is one. -/
def fieldNames (event : Event) : List String :=
  "message" :: event.fields.map Field.name

/-- Whether a rule is for an event. -/
def isFor (event : Event) (rule : Rule) : Bool :=
  !rule.needsSpan && (rule.source.getD "").isPrefixOf event.source.name &&
    rule.field.all (fieldNames event).contains

/-- How specific a rule is: by the length of its name, which is more than none at all, and then by
the name of its field. -/
def specificity (rule : Rule) : Nat × String :=
  ((rule.source.map fun s => s.length + 1).getD 0, rule.field.getD "")

/-- Of two rules for an event the more specific one, or else the later one. -/
def prevailing (best : Option Rule) (rule : Rule) : Option Rule :=
  match best with
  | none => some rule
  | some b =>
    let (length, field) := specificity b
    let (length', field') := specificity rule
    if length' < length ∨ (length' = length ∧ field' < field) then some b else some rule

/-- Whether an event is shown. -/
def shows (filter : Filter) (event : Event) : Bool :=
  match (filter.filter (isFor event)).foldl prevailing none with
  | some rule => event.level.rank ≤ rule.rank
  | none => false

end Filter

end ScoreDeploy.Log
