import ScoreDeploy.Proofs.Transaction.Flat
import ScoreDeploy.Transaction.Canonical

/-!
# The characters of a canonical form

A canonical form is built by appending to a text. What is appended for a value does not depend on
the text before it: `chars` is that list of characters, with equations that say how the characters
of an array and of an object consist of those of their parts. A flat value has the characters of the
value it comes from.
-/

namespace ScoreDeploy.Canonical

open ScoreDeploy.Json

/-- A character with its escape. -/
def escape (c : Char) : List Char :=
  if isSpecial c then ['\\', c] else [c]

/-- The characters of a value. -/
def chars (value : Json) : List Char :=
  (pushValue "" value).toList

/-- The characters of a key and its value. -/
def memberChars (m : String × Json) : List Char :=
  m.1.toList ++ '.' :: chars m.2

/-- Parts with a point in front of each. -/
def pointed {α : Type} (part : α → List Char) (parts : List α) : List Char :=
  parts.flatMap fun a => '.' :: part a

/-- Parts with points between them. -/
def joined {α : Type} (part : α → List Char) : List α → List Char
  | [] => []
  | a :: rest => part a ++ pointed part rest

section

variable {α : Type} {part : α → List Char}

@[simp] theorem pointed_nil : pointed part [] = [] := rfl

@[simp] theorem pointed_cons (a : α) (rest : List α) :
    pointed part (a :: rest) = '.' :: (part a ++ pointed part rest) := rfl

end

theorem toList_pushEscaped (out : String) (cs : List Char) :
    (pushEscaped out cs).toList = out.toList ++ cs.flatMap escape := by
  induction cs generalizing out with
  | nil => simp [pushEscaped]
  | cons c rest ih =>
    rw [pushEscaped, ih, List.flatMap_cons, escape]
    split_ifs <;> simp

/-- The value is appended, whatever stands before it. -/
def Appends (value : Json) : Prop :=
  ∀ out, (pushValue out value).toList = out.toList ++ chars value

theorem toList_pushItems {items : List Json} (h : ∀ item ∈ items, Appends item) (out : String) :
    (pushItems out false items).toList = out.toList ++ pointed chars items := by
  induction items generalizing out with
  | nil => simp [pushItems]
  | cons item rest ih =>
    obtain ⟨hitem, hrest⟩ := List.forall_mem_cons.mp h
    rw [pushItems, ih hrest, hitem]
    simp [pushPoint]

theorem toList_pushItems_first {items : List Json} (h : ∀ item ∈ items, Appends item)
    (out : String) : (pushItems out true items).toList = out.toList ++ joined chars items := by
  cases items with
  | nil => simp [pushItems, joined]
  | cons item rest =>
    obtain ⟨hitem, hrest⟩ := List.forall_mem_cons.mp h
    rw [pushItems, toList_pushItems hrest, hitem]
    simp [pushPoint, joined]

theorem toList_pushMembers {members : Members} (h : ∀ m ∈ members, Appends m.2) (out : String) :
    (pushMembers out false members).toList = out.toList ++ pointed memberChars members := by
  induction members generalizing out with
  | nil => simp [pushMembers]
  | cons m rest ih =>
    obtain ⟨hm, hrest⟩ := List.forall_mem_cons.mp h
    rw [pushMembers, ih hrest, hm]
    simp [pushPoint, memberChars]

theorem toList_pushMembers_first {members : Members} (h : ∀ m ∈ members, Appends m.2)
    (out : String) :
    (pushMembers out true members).toList = out.toList ++ joined memberChars members := by
  cases members with
  | nil => simp [pushMembers, joined]
  | cons m rest =>
    obtain ⟨hm, hrest⟩ := List.forall_mem_cons.mp h
    rw [pushMembers, toList_pushMembers hrest, hm]
    simp [pushPoint, joined, memberChars]

theorem appends (value : Json) : Appends value := by
  induction value with
  | null => intro out; simp [chars, pushValue]
  | bool b => intro out; simp [chars, pushValue, toList_pushEscaped]
  | number n => intro out; simp [chars, pushValue, toList_pushEscaped]
  | string s => intro out; simp [chars, pushValue, toList_pushEscaped]
  | array items ih => intro out; simp [chars, pushValue, toList_pushItems_first ih]
  | object members ih => intro out; simp [chars, pushValue, toList_pushMembers_first ih]

@[simp] theorem chars_null : chars .null = ['\\', '0'] := by
  rfl

@[simp] theorem chars_string (s : String) : chars (.string s) = s.toList.flatMap escape := by
  simp [chars, pushValue, toList_pushEscaped]

@[simp] theorem chars_array (items : List Json) :
    chars (.array items) = '[' :: (joined chars items ++ [']']) := by
  simp [chars, pushValue, toList_pushItems_first fun item _ => appends item]

@[simp] theorem chars_object (members : Members) :
    chars (.object members) = '\x7b' :: (joined memberChars members ++ ['\x7d']) := by
  simp [chars, pushValue, toList_pushMembers_first fun m _ => appends m.2]

theorem toList_text (params : Params) :
    (text params).toList = start.toList ++
      pointed memberChars (Members.without omitted (canonicalMembers [] params)) :=
  toList_pushMembers (fun m _ => appends m.2) start

/-! ### Flat values have the same characters -/

section

variable {α : Type} {part : α → List Char} {f : α → α} {parts : List α}

theorem pointed_map (h : ∀ a ∈ parts, part (f a) = part a) :
    pointed part (parts.map f) = pointed part parts := by
  induction parts with
  | nil => rfl
  | cons a rest ih =>
    obtain ⟨ha, hrest⟩ := List.forall_mem_cons.mp h
    rw [List.map_cons, pointed_cons, pointed_cons, ha, ih hrest]

theorem joined_map (h : ∀ a ∈ parts, part (f a) = part a) :
    joined part (parts.map f) = joined part parts := by
  cases parts with
  | nil => rfl
  | cons a rest =>
    obtain ⟨ha, hrest⟩ := List.forall_mem_cons.mp h
    rw [List.map_cons, joined, joined, ha, pointed_map hrest]

end

theorem eq_of_isBlankValue {value : Json} (h : isBlankValue value = true) :
    value = .string "" := by
  cases value with
  | string s => rw [eq_of_beq h]
  | _ => exact absurd h Bool.false_ne_true

theorem joined_dropLone (items : List Json) :
    joined chars (dropLone isBlankValue items) = joined chars items := by
  unfold dropLone
  split
  · split_ifs with hblank
    · rw [eq_of_isBlankValue hblank]
      simp [joined]
    · rfl
  · rfl

theorem chars_flatValue (value : Json) : chars (flatValue value) = chars value := by
  induction value with
  | null => rfl
  | bool b => simp [flatValue, chars, pushValue]
  | number n => simp [flatValue, chars, pushValue, compact, pushCompact]
  | string s => rfl
  | array items ih =>
    rw [flatValue, chars_array, chars_array, joined_dropLone, flatItems_eq_map, joined_map ih]
  | object members ih =>
    rw [flatValue, chars_object, chars_object, flatMembers_eq_map]
    rw [joined_map fun m hm => by rw [memberChars, memberChars, ih m hm]]

theorem pointed_flatMembers (members : Members) :
    pointed memberChars (flatMembers members) = pointed memberChars members := by
  rw [flatMembers_eq_map]
  exact pointed_map fun m _ => by rw [memberChars, memberChars, chars_flatValue]

end ScoreDeploy.Canonical
