import ScoreDeploy.Bytes.Basic
import ScoreDeploy.Text.Blank
import ScoreDeploy.Text.Numeral
import ScoreDeploy.Text.Parts

/-!
# Responses

What comes back for a posted message is a head, which is a line with a status and lines with fields
up to an empty line, and a body. The head tells where the body ends: where it says, where the chunks
of the body end, or where nothing more comes. `Response.read?` takes a whole reply apart. Responses
that only announce another one are passed over.
-/

namespace ScoreDeploy.Node

/-- A field in the head of a response. -/
structure Response.Field where
  /-- The name in small letters. -/
  name : String
  /-- The text, if all its characters can be printed in ASCII. -/
  text : Option (List Char)
deriving DecidableEq, Repr

/-- What comes before the body of a response. -/
structure Response.Head where
  /-- Whether the machine talks in the oldest way, which has no chunks. -/
  isOldest : Bool
  /-- The number that tells what became of the message. -/
  status : Nat
  fields : List Response.Field

/-- What a machine says to a message. -/
structure Response where
  /-- The number that tells what became of the message. -/
  status : Nat
  /-- Where something is, if that is told. -/
  location : Option String := none
  /-- What came with it, unless it broke off. -/
  body : Option Bytes
deriving DecidableEq, Repr

namespace Response

/-- The byte that ends a line. -/
def lineFeed : UInt8 := 10

/-- The byte that may stand before the end of a line. -/
def carriageReturn : UInt8 := 13

/-! ### Heads -/

/-- The line with these bytes, the last one first, without the return before its end. -/
def lineOf : Bytes → Bytes
  | [] => []
  | b :: before => if b = carriageReturn then before.reverse else (b :: before).reverse

/-- Cuts off the lines before the first empty one. Empty lines at the start are passed over. `lines`
holds the lines so far and `line` the bytes of the next one so far, the last ones first. -/
def cutLines? (lines : List Bytes) (line : Bytes) : Bytes → Option (List Bytes × Bytes)
  | [] => none
  | b :: rest =>
    if b ≠ lineFeed then cutLines? lines (b :: line) rest
    else if lineOf line ≠ [] then cutLines? (lineOf line :: lines) [] rest
    else if lines = [] then cutLines? [] [] rest
    else some (lines.reverse, rest)

theorem length_of_cutLines? {lines : List Bytes} {line bytes rest : Bytes} {cut : List Bytes}
    (h : cutLines? lines line bytes = some (cut, rest)) : rest.length < bytes.length := by
  fun_induction cutLines? lines line bytes with
  | case1 => simp at h
  | case2 _ _ _ _ _ ih => exact Nat.lt_succ_of_lt (ih h)
  | case3 _ _ _ _ _ _ ih => exact Nat.lt_succ_of_lt (ih h)
  | case4 _ _ _ _ _ ih => exact Nat.lt_succ_of_lt (ih h)
  | case5 => simp_all

/-- Whether a byte may stand in a line of text. -/
def isInText (b : UInt8) : Bool :=
  b == 9 || (32 ≤ b && b != 127)

/-- Whether a byte may stand in the name of a field. -/
def isInName (b : UInt8) : Bool :=
  let c := Char.ofNat b.toNat
  c.isAlphanum || "!#$%&'*+-.^_`|~".toList.contains c

/-- Whether a byte is a blank. -/
def isBlankByte (b : UInt8) : Bool :=
  b == 32 || b == 9

/-- The characters of bytes in ASCII. -/
def asciiText? (bytes : Bytes) : Option (List Char) :=
  if bytes.all (· < 128) then some (bytes.map fun b => Char.ofNat b.toNat) else none

/-- The field in a line. -/
def Field.ofLine? (line : Bytes) : Option Field :=
  let name := line.takeWhile isInName
  match line.dropWhile isInName with
  | 58 :: value =>
    if name ≠ [] ∧ value.all isInText then
      let value := (value.dropWhile isBlankByte).reverse.dropWhile isBlankByte
      some ⟨String.ofList (name.map fun b => (Char.ofNat b.toNat).toLower),
        asciiText? value.reverse⟩
    else none
  | _ => none

/-- The greatest number of fields. -/
def maxFields : Nat := 100

/-- The version and the status in the first line of a head. -/
def statusOf? (line : Bytes) : Option (Bool × Nat) := do
  let mark := Bytes.ofText "HTTP/1."
  guard (mark.isPrefixOf line)
  match line.drop mark.length with
  | version :: 32 :: a :: b :: c :: reason =>
    guard (version == 48 || version == 49)
    guard (reason == [] || reason.head? == some 32 && reason.all isInText)
    let digits ← asciiText? [a, b, c]
    guard (digits.all Char.isDigit)
    let status ← (Numeral.read 10 1000 digits).toOption
    guard (100 ≤ status)
    return (version == 48, status)
  | _ => none

/-- The head with these lines. -/
def Head.ofLines? : List Bytes → Option Head
  | [] => none
  | first :: others => do
    guard (others.length ≤ maxFields)
    let (isOldest, status) ← statusOf? first
    return ⟨isOldest, status, ← others.mapM Field.ofLine?⟩

/-! ### Bodies -/

/-- Where a body ends. -/
inductive Extent where
  /-- After that many bytes. -/
  | length (n : Nat)
  /-- After its last chunk. -/
  | chunks
  /-- Where nothing more comes. -/
  | whole
deriving DecidableEq, Repr

/-- The parts of a text between commas, without the blanks around them. -/
def listed (text : List Char) : List (List Char) :=
  (Text.parts (· == ',') text).map Text.trimBlanks

/-- A number of bytes that is too large for any body. -/
def lengthLimit : Nat := UInt64.size - 2

/-- The length that all texts give, which have to be digits. -/
def commonLength? (texts : List (List Char)) : Option Nat := do
  guard (texts.all fun text => text.all Char.isDigit)
  let numbers ← texts.mapM fun text => (Numeral.read 10 lengthLimit text).toOption
  let n ← numbers.head?
  guard (numbers.all (· == n))
  return n

/-- The fields with a name. -/
def Head.named (head : Head) (name : String) : List Field :=
  head.fields.filter (·.name == name)

/-- Where something is, if a head tells it. -/
def Head.location (head : Head) : Option String :=
  (head.named "location").head?.bind fun f => f.text.map String.ofList

/-- Where the body after a head ends. -/
def Head.extent? (head : Head) : Option Extent :=
  let codings := head.named "transfer-encoding"
  let lengths := head.named "content-length"
  if [101, 204, 304].contains head.status then some (.length 0)
  else if codings ≠ [] then
    if head.isOldest then none
    else
      let last := codings.getLast?.bind fun f => f.text.bind fun text => (listed text).getLast?
      some (if last.map (·.map Char.toLower) = some "chunked".toList then .chunks else .whole)
  else if lengths ≠ [] then do
    let texts ← lengths.mapM Field.text
    return .length (← commonLength? (texts.flatMap listed))
  else some .whole

/-- The size in the first line of a chunk, after which something may stand that means nothing. -/
def chunkSize? (line : Bytes) : Option Nat := do
  let digits := line.takeWhile fun b => (Numeral.digit? 16 (Char.ofNat b.toNat)).isSome
  let after := (line.drop digits.length).dropWhile isBlankByte
  guard (after.head? == some carriageReturn || after.head? == some 59)
  guard (after.idxOf? carriageReturn == some (after.length - 1))
  (Numeral.read 16 UInt64.size (← asciiText? digits)).toOption

/-- Whether a body ends after its last chunk: with an empty line, before which there may be lines
with fields. -/
def isEnded (bytes : Bytes) : Bool :=
  match bytes with
  | 13 :: 10 :: _ => true
  | _ =>
    match cutLines? [] [] bytes with
    | some (lines, _) => lines.length < maxFields && lines.all fun l => (Field.ofLine? l).isSome
    | none => false

/-- The body whose chunks these bytes start with. -/
def joinChunks? (bytes : Bytes) : Option Bytes :=
  match _h : bytes.dropWhile (· != lineFeed), chunkSize? (bytes.takeWhile (· != lineFeed)) with
  | _ :: rest, some 0 => if isEnded rest then some [] else none
  | _ :: rest, some size =>
    match _h' : rest.drop size with
    | 13 :: 10 :: more => (rest.take size ++ ·) <$> joinChunks? more
    | _ => none
  | _, _ => none
termination_by bytes.length
decreasing_by
  have hb := (List.dropWhile_sublist (l := bytes) (· != lineFeed)).length_le
  have hr := congrArg List.length _h'
  simp [_h] at hb hr
  omega

/-- The body in what follows a head, unless it breaks off. -/
def Extent.body? (extent : Extent) (rest : Bytes) : Option Bytes :=
  match extent with
  | .length n => if n ≤ rest.length then some (rest.take n) else none
  | .chunks => joinChunks? rest
  | .whole => some rest

end Response

/-! ### Replies -/

/-- Whether a response with that status only announces another one. -/
def Response.isAnnouncement (status : Nat) : Bool :=
  status < 200 && status != 101

/-- The response in a reply. -/
def Response.read? (reply : Bytes) : Option Response :=
  match _h : cutLines? [] [] reply with
  | none => none
  | some (lines, rest) => do
    let head ← Head.ofLines? lines
    if isAnnouncement head.status then read? rest
    else
      let extent ← head.extent?
      return ⟨head.status, head.location, extent.body? rest⟩
termination_by reply.length
decreasing_by exact length_of_cutLines? ‹_›

end ScoreDeploy.Node
