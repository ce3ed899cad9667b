import ScoreDeploy.Proofs.Json.Reread
import ScoreDeploy.Transaction.Parameters

/-!
# JSON documents

A `Document` is what a JSON text says before any number is rounded: an integer literal is kept with
its sign and its digits, of any magnitude. `IsTextOf` is the grammar of JSON. `wire` is the document
as a contract receives it: an integer literal that a reader can hold as an integer becomes the
hexadecimal numeral of its number, and any other one the text of a float.
-/

namespace ScoreDeploy.Json

/-- What a JSON text says. -/
inductive Document where
  | null
  | bool (value : Bool)
  /-- An integer literal: a sign, if there is one, and the digits of a number. -/
  | integer (negative : Bool) (magnitude : Nat)
  /-- A number literal with a fraction or an exponent. -/
  | decimal
  | text (value : String)
  | array (items : List Document)
  | object (members : List (String × Document))

namespace Document

/-! ### Wire forms -/

/-- The number that an integer literal denotes. -/
def integerValue (negative : Bool) (magnitude : Nat) : Int :=
  if negative then -magnitude else magnitude

/-- The hexadecimal numeral of a number, with a minus sign in front if it is negative. -/
def hexNumeral (n : Int) : String :=
  (if n < 0 then "-0x" else "0x") ++ String.ofList (Nat.toDigits 16 n.natAbs)

theorem integerText_eq_hexNumeral (n : Int) : Params.integerText n = hexNumeral n := by
  rw [Params.integerText, hexNumeral, HexNumeral.write, Numeral.hex]
  split_ifs
  · rw [← String.append_assoc]
    rfl
  · rfl

/-- A reader can hold the literal as an integer: the number has 64 bits, signed or unsigned, and is
no zero with a sign. -/
def FitsInteger (negative : Bool) (magnitude : Nat) : Prop :=
  -0x8000000000000000 ≤ integerValue negative magnitude ∧
    integerValue negative magnitude < 0x10000000000000000 ∧ ¬(negative = true ∧ magnitude = 0)

instance (negative : Bool) (magnitude : Nat) : Decidable (FitsInteger negative magnitude) :=
  inferInstanceAs (Decidable (_ ∧ _ ∧ ¬(_ ∧ _)))

/-- What a reader takes an integer literal for. Of a long one the digits count that 64 bits hold,
and the number of the others as a power of ten. -/
def literalNumber (negative : Bool) (magnitude : Nat) : Except Fault Number :=
  if magnitude < significandLimit then whole negative magnitude
  else
    let gathered := gather significandLimit 0 0 (Nat.toDigits 10 magnitude)
    float negative gathered.1 gathered.2.2.length

/-- The float that a reader takes a literal for which it cannot hold as an integer. -/
def literalFloat (negative : Bool) (magnitude : Nat) : Binary64 :=
  match literalNumber negative magnitude with
  | .ok (.float x) => x
  | _ => ⟨negative, 0⟩

/-- The text that a contract receives for an integer literal. -/
def literalText (negative : Bool) (magnitude : Nat) : String :=
  if FitsInteger negative magnitude then hexNumeral (integerValue negative magnitude)
  else (literalFloat negative magnitude).text

mutual

/-- The document with every integer literal replaced by its text, and every boolean by `0x1` or
`0x0`. -/
def wire : Document → Json
  | null => .null
  | bool b => .string (if b then "0x1" else "0x0")
  | integer negative magnitude => .string (literalText negative magnitude)
  | decimal => .null
  | text s => .string s
  | array items => .array (wireItems items)
  | object members => .object (wireMembers members)

/-- The wire forms of the items. -/
def wireItems : List Document → List Json
  | [] => []
  | item :: rest => wire item :: wireItems rest

/-- The wire forms of the members. -/
def wireMembers : List (String × Document) → Members
  | [] => []
  | (key, value) :: rest => (key, wire value) :: wireMembers rest

end

theorem wire_array (items : List Document) : wire (array items) = .array (items.map wire) := by
  rw [wire]
  induction items with
  | nil => rfl
  | cons item rest ih => rw [wireItems, List.map_cons, ← Json.array.inj ih]

theorem wire_object (members : List (String × Document)) :
    wire (object members) = .object (members.map fun m => (m.1, wire m.2)) := by
  rw [wire]
  induction members with
  | nil => rfl
  | cons m rest ih => rw [wireMembers, List.map_cons, ← Json.object.inj ih]

/-- All numbers in the document are integer literals. -/
inductive IsIntegral : Document → Prop
  | null : IsIntegral null
  | bool (b : Bool) : IsIntegral (bool b)
  | integer (negative : Bool) (magnitude : Nat) : IsIntegral (integer negative magnitude)
  | text (s : String) : IsIntegral (text s)
  | array {items : List Document} : (∀ item ∈ items, IsIntegral item) → IsIntegral (array items)
  | object {members : List (String × Document)} : (∀ m ∈ members, IsIntegral m.2) →
      IsIntegral (object members)

end Document

/-! ### Texts of documents -/

/-- The characters stand between quotes for that text. -/
inductive IsEscaped : List Char → List Char → Prop
  | nil : IsEscaped [] []
  | plain {c : Char} {cs s : List Char} : c ≠ '"' → c ≠ '\\' → ¬c.toNat < 0x20 → IsEscaped cs s →
      IsEscaped (c :: cs) (c :: s)
  | letter {e c : Char} {cs s : List Char} : escapeLetter? e = some c → IsEscaped cs s →
      IsEscaped ('\\' :: e :: cs) (c :: s)
  | code {p q r t : Char} {n : Nat} {cs s : List Char} : hexNumber? p q r t = some n →
      n < 0xD800 ∨ 0xDFFF < n → IsEscaped cs s →
      IsEscaped ('\\' :: 'u' :: p :: q :: r :: t :: cs) (Char.ofNat n :: s)
  | pair {p q r t p' q' r' t' : Char} {high low : Nat} {cs s : List Char} :
      hexNumber? p q r t = some high → 0xD800 ≤ high → high ≤ 0xDBFF →
      hexNumber? p' q' r' t' = some low → 0xDC00 ≤ low → low ≤ 0xDFFF → IsEscaped cs s →
      IsEscaped ('\\' :: 'u' :: p :: q :: r :: t :: '\\' :: 'u' :: p' :: q' :: r' :: t' :: cs)
        (Char.ofNat (0x10000 + (high - 0xD800) * 0x400 + (low - 0xDC00)) :: s)

/-- The characters are digits, and there is one at least. -/
def AreDigits (cs : List Char) : Prop :=
  cs ≠ [] ∧ ∀ c ∈ cs, c.isDigit = true

/-- The characters are the fraction of a number, if there is one. -/
inductive IsFraction : List Char → Prop
  | none : IsFraction []
  | some {digits : List Char} : AreDigits digits → IsFraction ('.' :: digits)

/-- The characters are the exponent of a number, if there is one. -/
inductive IsExponent : List Char → Prop
  | none : IsExponent []
  | some {letter : Char} {sign digits : List Char} : letter = 'e' ∨ letter = 'E' →
      sign ∈ [[], ['+'], ['-']] → AreDigits digits → IsExponent (letter :: (sign ++ digits))

/-- The sign of a number literal. -/
def signChars (negative : Bool) : List Char :=
  if negative then ['-'] else []

/-- The characters are a key in quotes, with blanks around it. -/
def IsKeyText (chars : List Char) (name : String) : Prop :=
  ∃ before cs after, AreBlank before ∧ AreBlank after ∧ IsEscaped cs name.toList ∧
    chars = before ++ '"' :: (cs ++ '"' :: after)

/-- A member of an object and the characters of its key and of its value. -/
structure MemberText where
  keyChars : List Char
  name : String
  valueChars : List Char
  value : Document

namespace MemberText

/-- The characters of the member. -/
def chars (m : MemberText) : List Char :=
  m.keyChars ++ ':' :: m.valueChars

/-- The member itself. -/
def member (m : MemberText) : String × Document :=
  (m.name, m.value)

end MemberText

/-- Parts of an array or an object with commas between them. -/
def separated (parts : List (List Char)) : List Char :=
  [','].intercalate parts

/-- The characters are a text of the document. -/
inductive IsTextOf : List Char → Document → Prop
  | null : IsTextOf ['n', 'u', 'l', 'l'] .null
  | yes : IsTextOf ['t', 'r', 'u', 'e'] (.bool true)
  | no : IsTextOf ['f', 'a', 'l', 's', 'e'] (.bool false)
  | integer (negative : Bool) (n : Nat) :
      IsTextOf (signChars negative ++ Nat.toDigits 10 n) (.integer negative n)
  | decimal (negative : Bool) (n : Nat) {fraction exponent : List Char} : IsFraction fraction →
      IsExponent exponent → fraction ++ exponent ≠ [] →
      IsTextOf (signChars negative ++ (Nat.toDigits 10 n ++ (fraction ++ exponent))) .decimal
  | text {cs : List Char} {s : String} : IsEscaped cs s.toList →
      IsTextOf ('"' :: (cs ++ ['"'])) (.text s)
  | noItems {blanks : List Char} : AreBlank blanks →
      IsTextOf ('[' :: (blanks ++ [']'])) (.array [])
  | array {parts : List (List Char × Document)} : parts ≠ [] → (∀ p ∈ parts, IsTextOf p.1 p.2) →
      IsTextOf ('[' :: (separated (parts.map Prod.fst) ++ [']'])) (.array (parts.map Prod.snd))
  | noMembers {blanks : List Char} : AreBlank blanks →
      IsTextOf ('\x7b' :: (blanks ++ ['\x7d'])) (.object [])
  | object {parts : List MemberText} : parts ≠ [] → (∀ m ∈ parts, IsKeyText m.keyChars m.name) →
      (∀ m ∈ parts, IsTextOf m.valueChars m.value) →
      IsTextOf ('\x7b' :: (separated (parts.map MemberText.chars) ++ ['\x7d']))
        (.object (parts.map MemberText.member))
  | blanks {before cs after : List Char} {doc : Document} : AreBlank before → AreBlank after →
      IsTextOf cs doc → IsTextOf (before ++ (cs ++ after)) doc

end ScoreDeploy.Json
