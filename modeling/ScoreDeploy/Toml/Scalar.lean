import ScoreDeploy.Text.Numeral
import ScoreDeploy.Toml.Basic

/-!
# Scalars and keys of TOML

The parts of a document that hold no other part. A reader takes what it reads from the front of the
text, gives back what is left, and fails on anything that the format does not allow.
-/

namespace ScoreDeploy.Toml

/-- Whether a character separates parts of a line. -/
def isBlank (c : Char) : Bool :=
  c == ' ' || c == '\t'

/-- The text from the next part of the line on. -/
def skipBlanks (cs : List Char) : List Char :=
  cs.dropWhile isBlank

/-- Whether a character may stand in a comment, or for itself in a text. -/
def isPlain (c : Char) : Bool :=
  c == '\t' || (0x20 ≤ c.toNat && c.toNat != 0x7F)

/-- The text after the end of a line, if one is at the front. -/
def newline? : List Char → Option (List Char)
  | '\n' :: rest => some rest
  | '\r' :: '\n' :: rest => some rest
  | _ => none

/-! ### Texts -/

/-- The character with that number. -/
def scalar? (n : Nat) : Option Char :=
  if n.isValidChar then some (Char.ofNat n) else none

/-- Reads a character given by that many hexadecimal digits. -/
def numberedChar (width : Nat) (cs : List Char) : Option (Char × List Char) := do
  let digits := cs.take width
  guard (digits.length = width)
  let values ← digits.mapM (Numeral.digit? 16)
  return (← scalar? (values.foldl (fun n d => n * 16 + d) 0), cs.drop width)

/-- Reads what follows the backslash of an escape. -/
def escape : List Char → Option (Char × List Char)
  | 'b' :: rest => some ('\x08', rest)
  | 't' :: rest => some ('\t', rest)
  | 'n' :: rest => some ('\n', rest)
  | 'f' :: rest => some ('\x0c', rest)
  | 'r' :: rest => some ('\r', rest)
  | '"' :: rest => some ('"', rest)
  | '\\' :: rest => some ('\\', rest)
  | 'u' :: rest => numberedChar 4 rest
  | 'U' :: rest => numberedChar 8 rest
  | _ => none

/-- Reads a text with escapes up to its closing quote; `done` holds the characters so far, the last
one first. The first argument bounds the number of characters. -/
def basicText : Nat → List Char → List Char → Option (String × List Char)
  | 0, _, _ => none
  | fuel + 1, done, cs =>
    match cs with
    | [] => none
    | '"' :: rest => some (String.ofList done.reverse, rest)
    | '\\' :: rest => do
      let (c, rest) ← escape rest
      basicText fuel (c :: done) rest
    | c :: rest => if isPlain c then basicText fuel (c :: done) rest else none

/-- Reads a text without escapes up to its closing quote. -/
def literalText (cs : List Char) : Option (String × List Char) :=
  match cs.dropWhile (fun c => isPlain c && c != '\'') with
  | '\'' :: rest =>
    some (String.ofList (cs.takeWhile fun c => isPlain c && c != '\''), rest)
  | _ => none

/-- Passes over blanks and ends of lines. -/
def skipSpace : List Char → List Char
  | ' ' :: rest => skipSpace rest
  | '\t' :: rest => skipSpace rest
  | '\n' :: rest => skipSpace rest
  | '\r' :: '\n' :: rest => skipSpace rest
  | cs => cs

/-- What a run of quotes in a text of several lines means: `none` if it is too long, else the
quotes that belong to the text and whether it ends here. -/
def quoteRun? (count : Nat) : Option (Nat × Bool) :=
  if count ≤ 2 then some (count, false)
  else if count ≤ 5 then some (count - 3, true)
  else none

/-- Reads a text of several lines with the given quote up to its end. With escapes, a backslash at
the end of a line joins the line with the next one that is not blank. -/
def multilineText (quote : Char) (escapes : Bool) :
    Nat → List Char → List Char → Option (String × List Char)
  | 0, _, _ => none
  | fuel + 1, done, cs =>
    match cs with
    | [] => none
    | c :: rest =>
      if c = quote then do
        let run := cs.takeWhile (· == quote)
        let (kept, ends) ← quoteRun? run.length
        let done := List.replicate kept quote ++ done
        if ends then some (String.ofList done.reverse, cs.drop run.length)
        else multilineText quote escapes fuel done (cs.drop run.length)
      else if escapes ∧ c = '\\' then
        match newline? (skipBlanks rest) with
        | some rest => multilineText quote escapes fuel done (skipSpace rest)
        | none => do
          let (c, rest) ← escape rest
          multilineText quote escapes fuel (c :: done) rest
      else
        match newline? cs with
        | some rest => multilineText quote escapes fuel ('\n' :: done) rest
        | none => if isPlain c then multilineText quote escapes fuel (c :: done) rest else none

/-- Reads a text of several lines after its opening quotes; an end of line right there does not
count. -/
def multiline (quote : Char) (escapes : Bool) (cs : List Char) : Option (String × List Char) :=
  let cs := (newline? cs).getD cs
  multilineText quote escapes (cs.length + 1) [] cs

/-- Reads a text of any kind. -/
def text : List Char → Option (String × List Char)
  | '"' :: '"' :: '"' :: rest => multiline '"' true rest
  | '\'' :: '\'' :: '\'' :: rest => multiline '\'' false rest
  | '"' :: rest => basicText (rest.length + 1) [] rest
  | '\'' :: rest => literalText rest
  | _ => none

/-! ### Keys -/

/-- Whether a character may stand in a key without quotes. -/
def isBare (c : Char) : Bool :=
  c.isAlphanum || c == '_' || c == '-'

/-- Reads one part of a key. -/
def simpleKey (cs : List Char) : Option (String × List Char) :=
  match cs with
  | '"' :: rest => basicText (rest.length + 1) [] rest
  | '\'' :: rest => literalText rest
  | _ =>
    let name := cs.takeWhile isBare
    if name.isEmpty then none else some (String.ofList name, cs.dropWhile isBare)

/-- Reads the further parts of a key, after points. The first argument bounds their number. -/
def furtherKeys : Nat → List String → List Char → Option (List String × List Char)
  | 0, _, _ => none
  | fuel + 1, done, cs =>
    match skipBlanks cs with
    | '.' :: rest => do
      let (name, rest) ← simpleKey (skipBlanks rest)
      furtherKeys fuel (name :: done) rest
    | cs => some (done.reverse, cs)

/-- The least number of parts that a key may not have. -/
def keyLimit : Nat := 80

/-- Reads a key, of one part or of several with points between them, and the blanks around it. -/
def key (cs : List Char) : Option (List String × List Char) := do
  let (name, rest) ← simpleKey (skipBlanks cs)
  let (names, rest) ← furtherKeys (rest.length + 1) [name] rest
  guard (names.length < keyLimit)
  return (names, rest)

/-! ### Numbers -/

/-- The digits of a numeral in which single underscores may stand between digits. -/
def digitsOf? (isDigit : Char → Bool) : List Char → Option (List Char)
  | [] => none
  | [c] => if isDigit c then some [c] else none
  | c :: '_' :: rest =>
    if isDigit c then (digitsOf? isDigit rest).map (c :: ·) else none
  | c :: rest => if isDigit c then (digitsOf? isDigit rest).map (c :: ·) else none

/-- The number that a numeral in that base denotes. -/
def numeral? (base : Nat) (cs : List Char) : Option Nat := do
  let digits ← digitsOf? (fun c => (Numeral.digit? base c).isSome) cs
  return digits.foldl (fun n c => n * base + (Numeral.digit? base c).getD 0) 0

/-- Whether a decimal numeral has no superfluous zero in front. -/
def hasNoLeadingZero : List Char → Bool
  | ['0'] => true
  | '0' :: _ => false
  | _ => true

/-- A sign, if one is at the front, and the rest. -/
def signOf : List Char → Bool × List Char
  | '+' :: rest => (false, rest)
  | '-' :: rest => (true, rest)
  | cs => (false, cs)

/-- The integer that a word denotes; it has to fit 64 bits with a sign. -/
def integer? (cs : List Char) : Option Int := do
  let n : Int ←
    match cs with
    | '0' :: 'x' :: rest => (numeral? 16 rest).map Int.ofNat
    | '0' :: 'o' :: rest => (numeral? 8 rest).map Int.ofNat
    | '0' :: 'b' :: rest => (numeral? 2 rest).map Int.ofNat
    | _ => do
      let (negative, digits) := signOf cs
      guard (hasNoLeadingZero digits)
      let n ← numeral? 10 digits
      pure (if negative then -(n : Int) else n)
  guard (Int64.minValue.toInt ≤ n ∧ n ≤ Int64.maxValue.toInt)
  return n

/-- The parts of a word before and after the first character that passes the test. -/
def cut (test : Char → Bool) (cs : List Char) : List Char × Option (List Char) :=
  match cs.dropWhile (fun c => !test c) with
  | [] => (cs, none)
  | _ :: rest => (cs.takeWhile (fun c => !test c), some rest)

/-- Whether a part of a number that may be missing consists of digits. -/
def areDigits (part : Option (List Char)) : Bool :=
  match part with
  | none => true
  | some cs => (digitsOf? Char.isDigit cs).isSome

/-- The number that decimal digits denote, underscores left out. -/
def digitsValue (cs : List Char) : Nat :=
  (cs.filter Char.isDigit).foldl (fun n c => n * 10 + (c.toNat - '0'.toNat)) 0

/-- The least number that rounds to no finite 64-bit float. -/
def firstInfinite : Nat := (1 <<< 1024) - (1 <<< 970)

/-- Whether `significand * 10 ^ exponent` rounds to no finite 64-bit float. Numbers whose size shows
in the count of their digits are not computed. -/
def isInfinite (significand : Nat) (exponent : Int) : Bool :=
  let size : Int := (Nat.toDigits 10 significand).length + exponent
  if significand = 0 ∨ size < 300 then false
  else if 320 < size then true
  else if 0 ≤ exponent then firstInfinite ≤ significand * Nat.pow 10 exponent.toNat
  else firstInfinite * Nat.pow 10 (-exponent).toNat ≤ significand

/-- Whether a word is a float. One that is too large may stand below zero only. -/
def isFloat (cs : List Char) : Bool :=
  let (negative, body) := signOf cs
  if body = ['i', 'n', 'f'] ∨ body = ['n', 'a', 'n'] then true
  else
    let (mantissa, exponent) := cut (fun c => c == 'e' || c == 'E') body
    let (whole, fraction) := cut (· == '.') mantissa
    let (down, power) := signOf (exponent.getD ['0'])
    let places : Int := ((fraction.getD []).filter Char.isDigit).length
    let shift : Int := if down then -(digitsValue power : Int) else digitsValue power
    (fraction.isSome || exponent.isSome) && hasNoLeadingZero whole &&
      areDigits (some whole) && areDigits fraction && areDigits (some power) &&
      (negative || !isInfinite (digitsValue mantissa) (shift - places))

/-! ### Dates and times -/

/-- The number that exactly these digits denote, if it lies between two others. -/
def between? (low high : Nat) (cs : List Char) : Bool :=
  match Numeral.read 10 10000 cs with
  | .ok n => cs.all Char.isDigit && low ≤ n && n ≤ high
  | .error _ => false

/-- The number of days of a month. -/
def daysIn (year month : Nat) : Nat :=
  if month = 2 then
    if year % 4 = 0 ∧ (year % 100 ≠ 0 ∨ year % 400 = 0) then 29 else 28
  else if month = 4 ∨ month = 6 ∨ month = 9 ∨ month = 11 then 30
  else 31

/-- Whether the text is a date. -/
def isDate : List Char → Bool
  | [y1, y2, y3, y4, '-', m1, m2, '-', d1, d2] =>
    between? 0 9999 [y1, y2, y3, y4] && between? 1 12 [m1, m2] &&
      between? 1 (daysIn (digitsValue [y1, y2, y3, y4]) (digitsValue [m1, m2])) [d1, d2]
  | _ => false

/-- Whether the text is empty or a point and digits. -/
def isSubsecond : List Char → Bool
  | [] => true
  | '.' :: rest => !rest.isEmpty && rest.all Char.isDigit
  | _ => false

/-- Whether the text is a time of day. -/
def isTime : List Char → Bool
  | h1 :: h2 :: ':' :: m1 :: m2 :: ':' :: s1 :: s2 :: rest =>
    between? 0 23 [h1, h2] && between? 0 59 [m1, m2] && between? 0 60 [s1, s2] &&
      isSubsecond rest
  | _ => false

/-- Whether the text is an offset from universal time. -/
def isOffset : List Char → Bool
  | ['Z'] => true
  | ['z'] => true
  | [sign, h1, h2, ':', m1, m2] =>
    (sign == '+' || sign == '-') && between? 0 23 [h1, h2] && between? 0 59 [m1, m2]
  | _ => false

/-- Whether the text is a time of day, with an offset or without one. -/
def isTimeWithOffset (cs : List Char) : Bool :=
  let isTimeChar c := c.isDigit || c == ':' || c == '.'
  let offset := cs.dropWhile isTimeChar
  isTime (cs.takeWhile isTimeChar) && (offset.isEmpty || isOffset offset)

/-- Whether a word is a date, a time, or both. -/
def isDatetime (cs : List Char) : Bool :=
  isTime cs || isDate cs ||
    (isDate (cs.take 10) &&
      match cs.drop 10 with
      | c :: time => (c == 'T' || c == 't' || c == ' ') && isTimeWithOffset time
      | [] => false)

/-! ### Words -/

/-- Whether a character may stand in a word: a number, a boolean, a date or a time. -/
def isWordChar (c : Char) : Bool :=
  c.isAlphanum || c == '_' || c == '+' || c == '-' || c == '.' || c == ':'

/-- Takes a word from the front. A date and a time with a blank between them are one word. -/
def word (cs : List Char) : List Char × List Char :=
  let first := cs.takeWhile isWordChar
  let rest := cs.dropWhile isWordChar
  match rest with
  | ' ' :: more =>
    let second := more.takeWhile isWordChar
    if isDate first ∧ isTimeWithOffset second then
      (first ++ ' ' :: second, more.dropWhile isWordChar)
    else (first, rest)
  | _ => (first, rest)

/-- The value that a word denotes. -/
def wordValue? (cs : List Char) : Option Value :=
  if cs = "true".toList then some (.boolean true)
  else if cs = "false".toList then some (.boolean false)
  else
    match integer? cs with
    | some n => some (.integer n)
    | none =>
      if isFloat cs then some (.float (String.ofList cs))
      else if isDatetime cs then some (.datetime (String.ofList cs))
      else none

end ScoreDeploy.Toml
