import ScoreDeploy.Json.Basic
import ScoreDeploy.Text.Numeral

/-!
# Reading JSON

A reader takes what it reads from the front of the text and gives back what is left. `tree` reads a
value and keeps the members of objects as they stand, repeated keys included; brackets may be
nested up to a given depth. `skip` passes over a value without keeping anything of it: it does not
count brackets and is content with the form of numbers and escapes.

A number without fraction and exponent is an integer if it fits one; every other number is a float.
Its digits are gathered as long as they fit 64 bits, later ones are dropped, and the result is
scaled by a power of ten, rounding at each step.
-/

namespace ScoreDeploy.Json

/-- Why a text cannot be read. -/
inductive Fault where
  /-- The text ends too early. -/
  | unexpectedEnd
  /-- No value starts here. -/
  | noValue
  /-- The digits of a number are missing or not in order. -/
  | badNumber
  /-- A number exceeds all floats. -/
  | numberTooLarge
  /-- An escape is none of the known ones. -/
  | badEscape
  /-- Half of a surrogate pair stands alone. -/
  | loneSurrogate
  /-- A control character stands in a text. -/
  | controlCharacter
  /-- The key of a member is no text. -/
  | noKey
  /-- The colon after a key is missing. -/
  | noColon
  /-- Neither a comma nor the closing bracket follows. -/
  | noComma
  /-- Something follows the value. -/
  | trailingText
  /-- Brackets are nested too deep. -/
  | tooDeep
  /-- A value has another type than the one that is asked for. -/
  | wrongType
  /-- A member is missing. -/
  | missingMember
  /-- A member is repeated. -/
  | repeatedMember
deriving DecidableEq, Repr

/-- The three kinds of faults. -/
inductive Fault.Category where
  /-- The text is no beginning of JSON. -/
  | malformed
  /-- The text is only a beginning of JSON. -/
  | incomplete
  /-- The text is JSON as far as it was read, but not of the form that is asked for. -/
  | unsuitable
deriving DecidableEq, Repr

/-- The kind of a fault. -/
def Fault.category : Fault → Category
  | .unexpectedEnd => .incomplete
  | .wrongType | .missingMember | .repeatedMember => .unsuitable
  | _ => .malformed

/-- A character that may stand between the parts of a value. -/
def isSpace (c : Char) : Bool :=
  c == ' ' || c == '\n' || c == '\r' || c == '\t'

/-- The text from the first part of a value on. -/
def skipSpace (cs : List Char) : List Char :=
  cs.dropWhile isSpace

/-- Reads exactly these characters. -/
def expect : List Char → List Char → Except Fault (List Char)
  | [], cs => .ok cs
  | _ :: _, [] => .error .unexpectedEnd
  | e :: es, c :: cs => if c = e then expect es cs else .error .noValue

/-! ### Texts -/

/-- The number that four hexadecimal digits denote. -/
def hexNumber? (p q r s : Char) : Option Nat := do
  let digit := Numeral.digit? 16
  return ((← digit p) * 16 + (← digit q)) * 256 + (← digit r) * 16 + (← digit s)

/-- Reads four hexadecimal digits. The text ends too early if fewer than four bytes are left. -/
def hexNumber (cs : List Char) : Except Fault (Nat × List Char) :=
  match cs with
  | p :: q :: r :: s :: rest =>
    match hexNumber? p q r s with
    | some n => .ok (n, rest)
    | none => .error .badEscape
  | _ => if (String.ofList cs).utf8ByteSize < 4 then .error .unexpectedEnd else .error .badEscape

/-- The character that an escape letter stands for. -/
def escapeLetter? (c : Char) : Option Char :=
  match c with
  | '"' => some '"'
  | '\\' => some '\\'
  | '/' => some '/'
  | 'b' => some '\x08'
  | 'f' => some '\x0c'
  | 'n' => some '\n'
  | 'r' => some '\r'
  | 't' => some '\t'
  | _ => none

/-- Reads what follows the first half of a surrogate pair. -/
def secondHalf (high : Nat) (cs : List Char) : Except Fault (Char × List Char) :=
  match cs with
  | [] | ['\\'] => .error .unexpectedEnd
  | '\\' :: 'u' :: rest =>
    match hexNumber rest with
    | .error f => .error f
    | .ok (low, rest) =>
      if 0xDC00 ≤ low ∧ low ≤ 0xDFFF then
        .ok (Char.ofNat (0x10000 + (high - 0xD800) * 0x400 + (low - 0xDC00)), rest)
      else .error .loneSurrogate
  | _ => .error .loneSurrogate

/-- Reads what follows the backslash of an escape. -/
def escape (cs : List Char) : Except Fault (Char × List Char) :=
  match cs with
  | [] => .error .unexpectedEnd
  | 'u' :: rest =>
    match hexNumber rest with
    | .error f => .error f
    | .ok (n, rest) =>
      if 0xDC00 ≤ n ∧ n ≤ 0xDFFF then .error .loneSurrogate
      else if 0xD800 ≤ n ∧ n ≤ 0xDBFF then secondHalf n rest
      else .ok (Char.ofNat n, rest)
  | c :: rest =>
    match escapeLetter? c with
    | some d => .ok (d, rest)
    | none => .error .badEscape

/-- Reads a text up to its closing quote; `done` holds the characters so far, the last one first.
The first argument bounds the number of characters. -/
def textFrom : Nat → List Char → List Char → Except Fault (String × List Char)
  | 0, _, _ => .error .unexpectedEnd
  | fuel + 1, done, cs =>
    match cs with
    | [] => .error .unexpectedEnd
    | '"' :: rest => .ok (String.ofList done.reverse, rest)
    | '\\' :: rest =>
      match escape rest with
      | .error f => .error f
      | .ok (c, rest) => textFrom fuel (c :: done) rest
    | c :: rest =>
      if c.toNat < 0x20 then .error .controlCharacter else textFrom fuel (c :: done) rest

/-- Reads a text after its opening quote. -/
def textBody (cs : List Char) : Except Fault (String × List Char) :=
  textFrom (cs.length + 1) [] cs

/-! ### Numbers -/

/-- Appends decimal digits to a number as long as the result stays below `limit`; gives the number
of digits taken and the text from the first one that was not. -/
def gather (limit : Nat) : Nat → Nat → List Char → Nat × Nat × List Char
  | value, count, [] => (value, count, [])
  | value, count, c :: cs =>
    if c.isDigit then
      let next := value * 10 + (c.toNat - '0'.toNat)
      if next < limit then gather limit next (count + 1) cs else (value, count, c :: cs)
    else (value, count, c :: cs)

/-- Whether a digit stands at the front. -/
def startsWithDigit (cs : List Char) : Bool :=
  match cs with
  | c :: _ => c.isDigit
  | [] => false

/-- Multiplies a count by a power of ten. A power too small for the format is taken in parts. -/
def scale (count : Nat) (exponent : Int) : Except Fault Nat :=
  if 0 ≤ exponent then
    if exponent ≤ 308 then
      match Binary64.mul count (Binary64.powerOfTen exponent.toNat) with
      | some scaled => .ok scaled
      | none => .error .numberTooLarge
    else if count = 0 then .ok 0
    else .error .numberTooLarge
  else if -308 ≤ exponent then .ok (Binary64.div count (Binary64.powerOfTen (-exponent).toNat))
  else if count = 0 then .ok 0
  else scale (Binary64.div count (Binary64.powerOfTen 308)) (exponent + 308)
termination_by (-exponent).toNat
decreasing_by omega

/-- The float `significand * 10 ^ exponent` with a sign. -/
def float (negative : Bool) (significand : Nat) (exponent : Int) : Except Fault Number := do
  return .float ⟨negative, ← scale (Binary64.ofNat significand) exponent⟩

/-- The greatest exponent that is looked at. -/
def exponentLimit : Nat := 0x80000000

/-- Reads what follows the letter of an exponent, and scales. -/
def exponentPart (negative : Bool) (significand : Nat) (start : Int) (cs : List Char) :
    Except Fault (Number × List Char) := do
  let (down, cs) :=
    match cs with
    | '+' :: rest => (false, rest)
    | '-' :: rest => (true, rest)
    | _ => (false, cs)
  match cs with
  | [] => throw .unexpectedEnd
  | c :: _ =>
    if !c.isDigit then throw .badNumber
    let (exponent, _, rest) := gather exponentLimit 0 0 cs
    if startsWithDigit rest then
      if significand ≠ 0 ∧ !down then throw .numberTooLarge
      return (.float ⟨negative, 0⟩, rest.dropWhile Char.isDigit)
    let total : Int := if down then start - exponent else start + exponent
    return (← float negative significand total, rest)

/-- Reads an exponent, if there is one, and scales. -/
def afterDigits (negative : Bool) (significand : Nat) (exponent : Int) (cs : List Char) :
    Except Fault (Number × List Char) := do
  match cs with
  | 'e' :: rest => exponentPart negative significand exponent rest
  | 'E' :: rest => exponentPart negative significand exponent rest
  | _ => return (← float negative significand exponent, cs)

/-- The significands that are kept exactly. -/
def significandLimit : Nat := UInt64.size

/-- Reads what follows the point of a number. -/
def fractionPart (negative : Bool) (significand : Nat) (start : Int) (cs : List Char) :
    Except Fault (Number × List Char) := do
  let (value, count, rest) := gather significandLimit significand 0 cs
  if startsWithDigit rest then
    afterDigits negative value (start - count) (rest.dropWhile Char.isDigit)
  else if count = 0 then throw (if rest.isEmpty then .unexpectedEnd else .badNumber)
  else afterDigits negative value (start - count) rest

/-- The number that an integer literal denotes: an integer where it fits, else a float. -/
def whole (negative : Bool) (value : Nat) : Except Fault Number :=
  if negative ∧ value = 0 then .ok (.float ⟨true, 0⟩)
  else
    match Integer.ofInt? (if negative then -value else value) with
    | some n => .ok (.integer n)
    | none => float negative value 0

/-- Reads what follows the digits before the point. -/
def afterWhole (negative : Bool) (value : Nat) (dropped : Nat) (cs : List Char) :
    Except Fault (Number × List Char) := do
  match cs with
  | '.' :: rest => fractionPart negative value dropped rest
  | 'e' :: rest => exponentPart negative value dropped rest
  | 'E' :: rest => exponentPart negative value dropped rest
  | _ =>
    if dropped = 0 then return (← whole negative value, cs)
    else return (← float negative value dropped, cs)

/-- Reads a number after its sign. -/
def numberBody (negative : Bool) (cs : List Char) : Except Fault (Number × List Char) :=
  match cs with
  | [] => .error .unexpectedEnd
  | '0' :: rest =>
    if startsWithDigit rest then .error .badNumber else afterWhole negative 0 0 rest
  | c :: _ =>
    if c.isDigit then
      let (value, _, rest) := gather significandLimit 0 0 cs
      let dropped := (rest.takeWhile Char.isDigit).length
      afterWhole negative value dropped (rest.dropWhile Char.isDigit)
    else .error .badNumber

/-! ### Values -/

/-- Reads a value that is no container. -/
def scalar (cs : List Char) : Except Fault (Json × List Char) := do
  match cs with
  | [] => throw .unexpectedEnd
  | 'n' :: rest => return (.null, ← expect ['u', 'l', 'l'] rest)
  | 't' :: rest => return (.bool true, ← expect ['r', 'u', 'e'] rest)
  | 'f' :: rest => return (.bool false, ← expect ['a', 'l', 's', 'e'] rest)
  | '"' :: rest =>
    let (s, rest) ← textBody rest
    return (.string s, rest)
  | '-' :: rest =>
    let (n, rest) ← numberBody true rest
    return (.number n, rest)
  | c :: _ =>
    if c.isDigit then
      let (n, rest) ← numberBody false cs
      return (.number n, rest)
    else throw .noValue

/-- Reads a key. -/
def key (cs : List Char) : Except Fault (String × List Char) :=
  match skipSpace cs with
  | [] => .error .unexpectedEnd
  | '"' :: rest => textBody rest
  | _ => .error .noKey

/-- Reads the colon between a key and its value. -/
def colon (cs : List Char) : Except Fault (List Char) :=
  match skipSpace cs with
  | [] => .error .unexpectedEnd
  | ':' :: rest => .ok rest
  | _ => .error .noColon

/-- Reads a key and the colon after it. -/
def keyAndColon (cs : List Char) : Except Fault (String × List Char) := do
  let (name, rest) ← key cs
  return (name, ← colon rest)

mutual

/-- Reads a value in which brackets are nested at most `depth` deep, keeping members as they
stand. The first argument bounds the number of steps. -/
def tree : Nat → Nat → List Char → Except Fault (Json × List Char)
  | 0, _, _ => .error .unexpectedEnd
  | fuel + 1, depth, cs =>
    match skipSpace cs with
    | '[' :: rest =>
      match depth with
      | 0 => .error .tooDeep
      | depth + 1 =>
        match skipSpace rest with
        | ']' :: rest => .ok (.array [], rest)
        | rest => treeItems fuel depth [] rest
    | '\x7b' :: rest =>
      match depth with
      | 0 => .error .tooDeep
      | depth + 1 =>
        match skipSpace rest with
        | '\x7d' :: rest => .ok (.object [], rest)
        | rest => treeMembers fuel depth [] rest
    | cs => scalar cs

/-- Reads items up to the closing bracket, behind those already `done`, the last one first. -/
def treeItems : Nat → Nat → List Json → List Char → Except Fault (Json × List Char)
  | 0, _, _, _ => .error .unexpectedEnd
  | fuel + 1, depth, done, cs =>
    match tree fuel depth cs with
    | .error f => .error f
    | .ok (item, rest) =>
      match skipSpace rest with
      | ',' :: rest => treeItems fuel depth (item :: done) rest
      | ']' :: rest => .ok (.array (item :: done).reverse, rest)
      | [] => .error .unexpectedEnd
      | _ => .error .noComma

/-- Reads members up to the closing bracket, behind those already `done`, the last one first. -/
def treeMembers : Nat → Nat → List (String × Json) → List Char →
    Except Fault (Json × List Char)
  | 0, _, _, _ => .error .unexpectedEnd
  | fuel + 1, depth, done, cs =>
    match keyAndColon cs with
    | .error f => .error f
    | .ok (name, rest) =>
      match tree fuel depth rest with
      | .error f => .error f
      | .ok (value, rest) =>
        match skipSpace rest with
        | ',' :: rest => treeMembers fuel depth ((name, value) :: done) rest
        | '\x7d' :: rest => .ok (.object ((name, value) :: done).reverse, rest)
        | [] => .error .unexpectedEnd
        | _ => .error .noComma

end

/-- A number of steps that no text of that length needs. -/
def enoughSteps (cs : List Char) : Nat :=
  2 * cs.length + 2

/-- The greatest number of brackets that may lie inside one another. -/
def maxDepth : Nat := 127

/-- Reads a value and checks that only blanks follow it. -/
def finish {α : Type} (result : Except Fault (α × List Char)) : Except Fault α := do
  let (value, rest) ← result
  if (skipSpace rest).isEmpty then return value else throw .trailingText

/-- The value that a text denotes, with the members of objects as they stand. -/
def readTree (text : String) : Except Fault Json :=
  let cs := text.toList
  finish (tree (enoughSteps cs) maxDepth cs)

/-- The canonical value that a text denotes. -/
def read (text : String) : Except Fault Json :=
  (readTree text).map canonical

/-! ### Skipping -/

/-- Passes over a text after its opening quote. -/
def skipText : Nat → List Char → Except Fault (List Char)
  | 0, _ => .error .unexpectedEnd
  | fuel + 1, cs =>
    match cs with
    | [] => .error .unexpectedEnd
    | '"' :: rest => .ok rest
    | '\\' :: [] => .error .unexpectedEnd
    | '\\' :: 'u' :: rest =>
      match hexNumber rest with
      | .error f => .error f
      | .ok (_, rest) => skipText fuel rest
    | '\\' :: c :: rest =>
      if (escapeLetter? c).isSome then skipText fuel rest else .error .badEscape
    | c :: rest => if c.toNat < 0x20 then .error .controlCharacter else skipText fuel rest

/-- Passes over digits, of which there must be one. -/
def skipDigits (cs : List Char) : Except Fault (List Char) :=
  if startsWithDigit cs then .ok (cs.dropWhile Char.isDigit) else .error .badNumber

/-- Passes over an exponent, if there is one. -/
def skipExponent (cs : List Char) : Except Fault (List Char) :=
  match cs with
  | c :: rest =>
    if c = 'e' ∨ c = 'E' then
      match rest with
      | '+' :: rest => skipDigits rest
      | '-' :: rest => skipDigits rest
      | _ => skipDigits rest
    else .ok cs
  | [] => .ok []

/-- Passes over a number after its sign. -/
def skipNumber (cs : List Char) : Except Fault (List Char) := do
  let rest ←
    match cs with
    | '0' :: rest => if startsWithDigit rest then throw .badNumber else pure rest
    | _ => skipDigits cs
  match rest with
  | '.' :: rest => skipExponent (← skipDigits rest)
  | _ => skipExponent rest

/-- Passes over a value that is no container. -/
def skipScalar (cs : List Char) : Except Fault (List Char) :=
  match cs with
  | [] => .error .unexpectedEnd
  | 'n' :: rest => expect ['u', 'l', 'l'] rest
  | 't' :: rest => expect ['r', 'u', 'e'] rest
  | 'f' :: rest => expect ['a', 'l', 's', 'e'] rest
  | '"' :: rest => skipText (rest.length + 1) rest
  | '-' :: rest => skipNumber rest
  | c :: _ => if c.isDigit then skipNumber cs else .error .noValue

/-- Passes over a key and the colon after it. -/
def skipKey (cs : List Char) : Except Fault (List Char) := do
  match skipSpace cs with
  | [] => throw .unexpectedEnd
  | '"' :: rest => colon (← skipText (rest.length + 1) rest)
  | _ => throw .noKey

/-- A bracket that is still open. -/
inductive Open where
  | array
  | object

/-- The character that closes a bracket. -/
def Open.closing : Open → Char
  | .array => ']'
  | .object => '\x7d'

mutual

/-- Passes over a value and over what the open brackets around it, the innermost one first, still
hold. -/
def skipValue : Nat → List Open → List Char → Except Fault (List Char)
  | 0, _, _ => .error .unexpectedEnd
  | fuel + 1, around, cs =>
    match skipSpace cs with
    | '[' :: rest =>
      match skipSpace rest with
      | [] => .error .unexpectedEnd
      | ']' :: rest => skipRest fuel around rest
      | rest => skipValue fuel (.array :: around) rest
    | '\x7b' :: rest =>
      match skipSpace rest with
      | [] => .error .unexpectedEnd
      | '\x7d' :: rest => skipRest fuel around rest
      | rest =>
        match skipKey rest with
        | .error f => .error f
        | .ok rest => skipValue fuel (.object :: around) rest
    | cs =>
      match skipScalar cs with
      | .error f => .error f
      | .ok rest => skipRest fuel around rest

/-- Passes over what the open brackets still hold after a value. -/
def skipRest : Nat → List Open → List Char → Except Fault (List Char)
  | 0, _, _ => .error .unexpectedEnd
  | _ + 1, [], cs => .ok cs
  | fuel + 1, bracket :: around, cs =>
    match skipSpace cs with
    | [] => .error .unexpectedEnd
    | ',' :: rest =>
      match bracket with
      | .array => skipValue fuel (.array :: around) rest
      | .object =>
        match skipKey rest with
        | .error f => .error f
        | .ok rest => skipValue fuel (.object :: around) rest
    | c :: rest =>
      if c = bracket.closing then skipRest fuel around rest else .error .noComma

end

/-- Passes over a value. -/
def skip (cs : List Char) : Except Fault (List Char) :=
  skipValue (enoughSteps cs) [] cs

end ScoreDeploy.Json
