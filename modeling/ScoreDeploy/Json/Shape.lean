import ScoreDeploy.Json.Reader

/-!
# Reading JSON of a given form

A `Shape` describes the form of a value that a file has to hold. `readAs` checks it while it reads,
so that of several faults the one that stands first in the text is reported. A record is an object
with known members, others being passed over; it may also be written as an array of its members in
order. An open record keeps the members that it does not know, and is never an array.
-/

namespace ScoreDeploy.Json

/-- The name of a member and whether a record may lack it. -/
structure Label where
  /-- The key under which the member is kept. -/
  name : String
  /-- Other keys under which it is accepted. -/
  aliases : List String := []
  /-- Whether a record without the member is refused. -/
  required : Bool := true

/-- Whether a key stands for the member. -/
def Label.accepts (label : Label) (key : String) : Bool :=
  key == label.name || label.aliases.contains key

/-- The form of a value. -/
inductive Shape where
  /-- Any value. -/
  | anything
  /-- Any value that the test accepts, with the members of objects as they stand. -/
  | passing (test : Json → Bool)
  /-- A text. -/
  | text
  /-- An integer from zero up to a limit, which is excluded. -/
  | natural (limit : Nat)
  /-- Null, or a value of that form. -/
  | optional (inner : Shape)
  /-- An object with any members. -/
  | members
  /-- An object with these members and any others, which are passed over. -/
  | record (fields : List (Label × Shape))
  /-- An object with these members and any others, which are kept. -/
  | openRecord (fields : List (Label × Shape))

namespace Shape

/-- The fault at a value of another type than the one asked for. A scalar is read first, and a
fault in it is reported instead. -/
def otherType {α : Type} (cs : List Char) : Except Fault α :=
  match cs with
  | '[' :: _ => .error .wrongType
  | '\x7b' :: _ => .error .wrongType
  | _ =>
    match scalar cs with
    | .error f => .error f
    | .ok _ => .error .wrongType

/-- Reads a text. -/
def readText (cs : List Char) : Except Fault (Json × List Char) :=
  match cs with
  | '"' :: rest =>
    match textBody rest with
    | .error f => .error f
    | .ok (s, rest) => .ok (.string s, rest)
  | _ => otherType cs

/-- Whether a value is an integer from zero up to the limit. -/
def isNatural (limit : Nat) : Json → Bool
  | .number (.integer n) => decide (0 ≤ n.toInt ∧ n.toInt < limit)
  | _ => false

/-- Reads a number in the given range. -/
def readNatural (limit : Nat) (cs : List Char) : Except Fault (Json × List Char) :=
  match cs with
  | '[' :: _ => .error .wrongType
  | '\x7b' :: _ => .error .wrongType
  | _ =>
    match scalar cs with
    | .error f => .error f
    | .ok (value, rest) => if isNatural limit value then .ok (value, rest) else .error .wrongType

/-- Checks that no required member is missing among those that were read. -/
def checkComplete (fields : List (Label × Shape)) (found : Members) :
    Except Fault Unit :=
  if fields.all fun f => !f.1.required || (Members.get? found f.1.name).isSome then .ok ()
  else .error .missingMember

/-- Goes on to the next item of an array: `none` at the closing bracket, which stays. -/
def nextItem (first : Bool) (cs : List Char) : Except Fault (Option (List Char)) :=
  match skipSpace cs with
  | [] => .error .unexpectedEnd
  | ']' :: _ => .ok none
  | ',' :: rest =>
    if first then .ok (some (',' :: rest))
    else
      match skipSpace rest with
      | [] => .error .unexpectedEnd
      | ']' :: _ => .error .noValue
      | rest => .ok (some rest)
  | cs => if first then .ok (some cs) else .error .noComma

/-- Passes over the closing bracket of an array all of whose items were read. -/
def closeArray (cs : List Char) : Except Fault (List Char) :=
  match skipSpace cs with
  | [] => .error .unexpectedEnd
  | ']' :: rest => .ok rest
  | _ => .error .trailingText

mutual

/-- Reads a value of a form in which brackets are nested at most `depth` deep. The first argument
bounds the number of steps. -/
def readValue : Nat → Nat → Shape → List Char → Except Fault (Json × List Char)
  | 0, _, _, _ => .error .unexpectedEnd
  | fuel + 1, depth, shape, cs =>
    let cs := skipSpace cs
    match shape with
    | .anything =>
      match tree (enoughSteps cs) depth cs with
      | .error f => .error f
      | .ok (value, rest) => .ok (value.canonical, rest)
    | .passing test =>
      match tree (enoughSteps cs) depth cs with
      | .error f => .error f
      | .ok (value, rest) => if test value then .ok (value, rest) else .error .wrongType
    | .text => readText cs
    | .natural limit => readNatural limit cs
    | .optional inner =>
      match cs with
      | 'n' :: _ => scalar cs
      | _ => readValue fuel depth inner cs
    | .members =>
      match cs with
      | '\x7b' :: _ =>
        match tree (enoughSteps cs) depth cs with
        | .error f => .error f
        | .ok (value, rest) => .ok (value.canonical, rest)
      | _ => otherType cs
    | .record fields =>
      match cs, depth with
      | '\x7b' :: _, 0 => .error .tooDeep
      | '[' :: _, 0 => .error .tooDeep
      | '\x7b' :: rest, depth + 1 =>
        match skipSpace rest with
        | '\x7d' :: rest =>
          match checkComplete fields [] with
          | .error f => .error f
          | .ok () => .ok (.object [], rest)
        | rest => readMembers fuel depth fields false [] rest
      | '[' :: rest, depth + 1 => readItems fuel depth fields true [] rest
      | _, _ => otherType cs
    | .openRecord fields =>
      match cs, depth with
      | '\x7b' :: _, 0 => .error .tooDeep
      | '\x7b' :: rest, depth + 1 =>
        match skipSpace rest with
        | '\x7d' :: rest =>
          match checkComplete fields [] with
          | .error f => .error f
          | .ok () => .ok (.object [], rest)
        | rest => readMembers fuel depth fields true [] rest
      | _, _ => otherType cs

/-- Reads members up to the closing bracket; `found` holds those already kept, the last one first.
Members that no label accepts are kept in an open record and passed over in a closed one. -/
def readMembers : Nat → Nat → List (Label × Shape) → Bool → Members → List Char →
    Except Fault (Json × List Char)
  | 0, _, _, _, _, _ => .error .unexpectedEnd
  | fuel + 1, depth, fields, keepOthers, found, cs =>
    match key cs with
    | .error f => .error f
    | .ok (name, rest) =>
      let result : Except Fault (Members × List Char) :=
        match fields.find? fun f => f.1.accepts name with
        | some (label, shape) =>
          if (Members.get? found label.name).isSome then .error .repeatedMember
          else
            match colon rest with
            | .error f => .error f
            | .ok rest =>
              match readValue fuel depth shape rest with
              | .error f => .error f
              | .ok (value, rest) => .ok ((label.name, value) :: found, rest)
        | none =>
          match colon rest with
          | .error f => .error f
          | .ok rest =>
            if keepOthers then
              match readValue fuel depth .anything rest with
              | .error f => .error f
              | .ok (value, rest) => .ok ((name, value) :: found, rest)
            else
              match skip rest with
              | .error f => .error f
              | .ok rest => .ok (found, rest)
      match result with
      | .error f => .error f
      | .ok (found, rest) =>
        match skipSpace rest with
        | ',' :: rest => readMembers fuel depth fields keepOthers found rest
        | '\x7d' :: rest =>
          match checkComplete fields found with
          | .error f => .error f
          | .ok () => .ok (.object found.reverse, rest)
        | [] => .error .unexpectedEnd
        | _ => .error .noComma

/-- Reads the members of a record from the items of an array; `first` tells that no item stands
before. -/
def readItems : Nat → Nat → List (Label × Shape) → Bool → Members → List Char →
    Except Fault (Json × List Char)
  | 0, _, _, _, _, _ => .error .unexpectedEnd
  | _ + 1, _, [], _, found, cs =>
    match closeArray cs with
    | .error f => .error f
    | .ok rest => .ok (.object found.reverse, rest)
  | fuel + 1, depth, (label, shape) :: fields, first, found, cs =>
    match nextItem first cs with
    | .error f => .error f
    | .ok none =>
      if label.required then .error .missingMember
      else readItems fuel depth fields first found cs
    | .ok (some cs) =>
      match readValue fuel depth shape cs with
      | .error f => .error f
      | .ok (value, rest) => readItems fuel depth fields false ((label.name, value) :: found) rest

end

end Shape

/-- The value that a text denotes, if it has that form. -/
def readAs (shape : Shape) (text : String) : Except Fault Json :=
  let cs := text.toList
  finish (shape.readValue (enoughSteps cs + 64) maxDepth cs)

end ScoreDeploy.Json
