import ScoreDeploy.Json.Text
import ScoreDeploy.Proofs.Json.Tree

/-!
# The characters of a pretty text

A pretty text is built by appending to what stands before it. `prettyChars` are the characters that
are appended for a value, with an equation for each form of value: those of an array or an object
are brackets, line ends and the characters of the parts.
-/

namespace ScoreDeploy.Json

/-- A text between quotes. -/
def quoted (s : String) : List Char :=
  '"' :: (s.toList.flatMap escapedChar ++ ['"'])

/-- A line end and the blanks of that many levels. -/
def line (level : Nat) : List Char :=
  '\n' :: List.replicate (2 * level) ' '

/-- The characters of a value whose brackets stand at that level. -/
def prettyChars (level : Nat) (value : Json) : List Char :=
  (pushPretty "" level value).toList

/-- The characters of a key and its value. -/
def memberChars (level : Nat) (m : String × Json) : List Char :=
  quoted m.1 ++ ':' :: ' ' :: prettyChars level m.2

/-- Parts on lines of their own, with a comma before each. -/
def following {α : Type} (part : α → List Char) (level : Nat) (parts : List α) : List Char :=
  parts.flatMap fun a => ',' :: (line level ++ part a)

/-- Parts on lines of their own, with commas between them. -/
def listed {α : Type} (part : α → List Char) (level : Nat) : List α → List Char
  | [] => []
  | a :: rest => line level ++ part a ++ following part level rest

section

variable {α : Type} {part : α → List Char} {level : Nat}

@[simp] theorem following_nil : following part level [] = [] := rfl

@[simp] theorem following_cons (a : α) (rest : List α) :
    following part level (a :: rest) = ',' :: (line level ++ part a) ++ following part level rest :=
  rfl

end

/-! ### What is appended -/

attribute [local simp] pushPretty pushCompact

theorem toList_foldl_push (cs : List Char) (out : String) :
    (cs.foldl String.push out).toList = out.toList ++ cs := by
  induction cs generalizing out with
  | nil => simp
  | cons c rest ih => simp [ih]

theorem toList_pushEscaped (cs : List Char) (out : String) :
    (pushEscaped out cs).toList = out.toList ++ cs.flatMap escapedChar := by
  induction cs generalizing out with
  | nil => simp [pushEscaped]
  | cons c rest ih => simp [pushEscaped, ih, toList_foldl_push]

@[simp] theorem toList_pushString (out s : String) :
    (pushString out s).toList = out.toList ++ quoted s := by
  simp [pushString, toList_pushEscaped, quoted]

@[simp] theorem toList_pushLine (out : String) (level : Nat) :
    (pushLine out level).toList = out.toList ++ line level := by
  simp [pushLine, line]

/-- The value is appended at every level, whatever stands before it. -/
def AppendsPretty (value : Json) : Prop :=
  ∀ level out, (pushPretty out level value).toList = out.toList ++ prettyChars level value

theorem toList_pushPrettyItems {items : List Json} (h : ∀ item ∈ items, AppendsPretty item)
    (level : Nat) (out : String) :
    (pushPrettyItems out level false items).toList =
      out.toList ++ following (prettyChars level) level items := by
  induction items generalizing out with
  | nil => simp [pushPrettyItems]
  | cons item rest ih =>
    obtain ⟨hitem, hrest⟩ := List.forall_mem_cons.mp h
    simp [pushPrettyItems, ih hrest, hitem level]

theorem toList_pushPrettyItems_first {items : List Json} (h : ∀ item ∈ items, AppendsPretty item)
    (level : Nat) (out : String) :
    (pushPrettyItems out level true items).toList =
      out.toList ++ listed (prettyChars level) level items := by
  cases items with
  | nil => simp [pushPrettyItems, listed]
  | cons item rest =>
    obtain ⟨hitem, hrest⟩ := List.forall_mem_cons.mp h
    simp [pushPrettyItems, toList_pushPrettyItems hrest, hitem level, listed]

theorem toList_pushPrettyMembers {members : Members} (h : ∀ m ∈ members, AppendsPretty m.2)
    (level : Nat) (out : String) :
    (pushPrettyMembers out level false members).toList =
      out.toList ++ following (memberChars level) level members := by
  induction members generalizing out with
  | nil => simp [pushPrettyMembers]
  | cons m rest ih =>
    obtain ⟨hm, hrest⟩ := List.forall_mem_cons.mp h
    simp [pushPrettyMembers, ih hrest, hm level, memberChars]

theorem toList_pushPrettyMembers_first {members : Members}
    (h : ∀ m ∈ members, AppendsPretty m.2) (level : Nat) (out : String) :
    (pushPrettyMembers out level true members).toList =
      out.toList ++ listed (memberChars level) level members := by
  cases members with
  | nil => simp [pushPrettyMembers, listed]
  | cons m rest =>
    obtain ⟨hm, hrest⟩ := List.forall_mem_cons.mp h
    simp [pushPrettyMembers, toList_pushPrettyMembers hrest, hm level, listed, memberChars]

theorem appendsPretty (value : Json) : AppendsPretty value := by
  induction value with
  | null => intro level out; simp [prettyChars]
  | bool b => intro level out; cases b <;> simp [prettyChars]
  | number n => intro level out; simp [prettyChars]
  | string s => intro level out; simp [prettyChars]
  | array items ih =>
    intro level out
    cases items with
    | nil => simp [prettyChars]
    | cons item rest => simp [prettyChars, toList_pushPrettyItems_first ih]
  | object members ih =>
    intro level out
    cases members with
    | nil => simp [prettyChars]
    | cons m rest => simp [prettyChars, toList_pushPrettyMembers_first ih]

/-! ### The characters of each form of value -/

variable (level : Nat)

@[simp] theorem prettyChars_null : prettyChars level .null = ['n', 'u', 'l', 'l'] := by
  simp [prettyChars]

@[simp] theorem prettyChars_true : prettyChars level (.bool true) = ['t', 'r', 'u', 'e'] := by
  simp [prettyChars]

@[simp] theorem prettyChars_false :
    prettyChars level (.bool false) = ['f', 'a', 'l', 's', 'e'] := by
  simp [prettyChars]

@[simp] theorem prettyChars_number (n : Number) :
    prettyChars level (.number n) = n.text.toList := by
  simp [prettyChars]

@[simp] theorem prettyChars_string (s : String) : prettyChars level (.string s) = quoted s := by
  simp [prettyChars]

@[simp] theorem prettyChars_array_nil : prettyChars level (.array []) = ['[', ']'] := by
  simp [prettyChars]

theorem prettyChars_array_cons (item : Json) (rest : List Json) :
    prettyChars level (.array (item :: rest)) =
      '[' :: (listed (prettyChars (level + 1)) (level + 1) (item :: rest) ++ line level ++
        [']']) := by
  simp [prettyChars, toList_pushPrettyItems_first fun item _ => appendsPretty item]

@[simp] theorem prettyChars_object_nil :
    prettyChars level (.object []) = ['\x7b', '\x7d'] := by
  simp [prettyChars]

theorem prettyChars_object_cons (m : String × Json) (rest : Members) :
    prettyChars level (.object (m :: rest)) =
      '\x7b' :: (listed (memberChars (level + 1)) (level + 1) (m :: rest) ++ line level ++
        ['\x7d']) := by
  simp [prettyChars, toList_pushPrettyMembers_first fun m _ => appendsPretty m.2]

theorem toList_pretty (value : Json) : value.pretty.toList = prettyChars 0 value := rfl

end ScoreDeploy.Json
