/-!
# Labels in ASCII

A label of a name that has other characters than those of ASCII is written in ASCII alone: first its
ASCII characters, then numbers that tell where the others are put in, in the order of their codes.
The numbers follow each other without separators, so their digits tell where they end: a digit below
a threshold is the last one of its number. The thresholds depend on a bias, which is adapted after
every number to what is likely to come next.
-/

namespace ScoreDeploy.Url.Punycode

/-- The character for a digit below 36. -/
def digit (n : Nat) : Char :=
  if n < 26 then Char.ofNat ('a'.toNat + n) else Char.ofNat ('0'.toNat + (n - 26))

/-- The digit that a character stands for. -/
def digit? (c : Char) : Option Nat :=
  if 'a' ≤ c ∧ c ≤ 'z' then some (c.toNat - 'a'.toNat)
  else if '0' ≤ c ∧ c ≤ '9' then some (c.toNat - '0'.toNat + 26)
  else none

/-- The least digit that does not end a number at a place; places are counted in steps of 36. -/
def threshold (bias place : Nat) : Nat :=
  max 1 (min 26 (place - bias))

theorem threshold_pos (bias place : Nat) : 0 < threshold bias place := by
  unfold threshold
  omega

/-- Divides a number until it is small, and counts the places that this takes. -/
def shrink (delta places : Nat) : Nat × Nat :=
  if 455 < delta then shrink (delta / 35) (places + 36) else (delta, places)
termination_by delta
decreasing_by omega

/-- The bias after a number, when there are `count` characters. -/
def adapt (delta count : Nat) (isFirst : Bool) : Nat :=
  let delta := if isFirst then delta / 700 else delta / 2
  let (delta, places) := shrink (delta + delta / count) 0
  places + 36 * delta / (delta + 38)

/-! ### Writing -/

/-- The digits of a number, the first one at that place. -/
def writeNumber (bias place n : Nat) : List Char :=
  let t := threshold bias place
  if n < t then [digit n]
  else digit (t + (n - t) % (36 - t)) :: writeNumber bias (place + 36) ((n - t) / (36 - t))
termination_by n
decreasing_by
  have := threshold_pos bias place
  exact Nat.lt_of_le_of_lt (Nat.div_le_self _ _) (by omega)

/-- How far a label is written. -/
structure Progress where
  /-- The numbers so far. -/
  written : List Char := []
  /-- How many possible insertions lie between the last one and the next one. -/
  delta : Nat := 0
  bias : Nat := 72
  /-- How many characters were written, in whatever way. -/
  count : Nat

/-- Passes by a character of the label, while the characters of one code are put in. -/
def pass (plain code : Nat) (p : Progress) (c : Char) : Progress :=
  if c.toNat < code then { p with delta := p.delta + 1 }
  else if c.toNat = code then {
    written := p.written ++ writeNumber p.bias 36 p.delta
    bias := adapt p.delta (p.count + 1) (p.count == plain)
    count := p.count + 1 }
  else p

/-- Puts in the characters of the codes, which increase; `next` comes after the last code that was
put in. -/
def putIn (plain : Nat) (label : List Char) (next : Nat) : List Nat → Progress → Progress
  | [], p => p
  | code :: codes, p =>
    let p := { p with delta := p.delta + (code - next) * (p.count + 1) }
    let p := label.foldl (pass plain code) p
    putIn plain label (code + 1) codes { p with delta := p.delta + 1 }

/-- The form of a label in ASCII. -/
def write (label : List Char) : List Char :=
  let plain := label.filter fun c => c.toNat < 128
  let codes := (label.map Char.toNat).filter (128 ≤ ·)
  let codes := (codes.mergeSort (· ≤ ·)).eraseDups
  let numbers := (putIn plain.length label 128 codes { count := plain.length }).written
  if plain.isEmpty then numbers else plain ++ '-' :: numbers

/-! ### Reading -/

/-- Reads a number whose next digit is at that place and has that weight; gives the number and what
is left. -/
def readNumber (bias place weight n : Nat) : List Char → Option (Nat × List Char)
  | [] => none
  | c :: rest => do
    let d ← digit? c
    let n := n + d * weight
    let t := threshold bias place
    if d < t then some (n, rest)
    else readNumber bias (place + 36) (weight * (36 - t)) n rest

/-- Puts in characters as the numbers tell. The first argument bounds how many there are; `place` is
where a zero would put the next one, `code` the least code that it may have. -/
def readNumbers : Nat → (bias code place : Nat) → (label : List Char) → List Char →
    Option (List Char)
  | _, _, _, _, label, [] => some label
  | 0, _, _, _, _, _ => none
  | bound + 1, bias, code, place, label, cs => do
    let (n, rest) ← readNumber bias 36 1 0 cs
    let count := label.length + 1
    let isFirst := place == 0
    let code := code + (place + n) / count
    let place := (place + n) % count
    guard (0 < (Char.ofNat code).toNat)
    let label := label.take place ++ Char.ofNat code :: label.drop place
    readNumbers bound (adapt n count isFirst) code (place + 1) label rest

/-- The label with that form in ASCII. -/
def read? (cs : List Char) : Option (List Char) :=
  let numbers := (cs.reverse.takeWhile (· != '-')).reverse
  let plain := (cs.take (cs.length - numbers.length)).dropLast
  if plain.all (·.toNat < 128) then readNumbers numbers.length 72 128 0 plain numbers else none

example : write "bücher".toList = "bcher-kva".toList := by decide +kernel

example : read? "bcher-kva".toList = some "bücher".toList := by decide +kernel

end ScoreDeploy.Url.Punycode
