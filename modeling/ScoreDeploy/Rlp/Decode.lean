import ScoreDeploy.Rlp.Basic
import ScoreDeploy.Text.Numeral

/-!
# Reading recursive length prefix

`decode` accepts every encoding of one object, canonical or not, whose lists are nested at most
`maxDepth` deep, and nothing after it. The reader walks a `Cursor` over the bytes and never looks
beyond a limit, which is the end of the list that it is in; an error tells where the reader stood.
-/

namespace ScoreDeploy.Rlp

/-- Why a byte string is no encoding of one object. Offsets count bytes from the start. -/
inductive Error where
  /-- At `offset` the next part is `needed` bytes long, but only `available` are left. -/
  | truncated (offset needed available : Nat)
  /-- An object is followed by that many bytes. -/
  | trailingBytes (count : Nat)
  /-- The list whose items start at `offset` lies too deep. -/
  | tooDeep (offset : Nat)
deriving DecidableEq, Repr

/-- The greatest number of lists that may lie inside one another. -/
def maxDepth : Nat := 1024

/-- The wording of an error. -/
def Error.message : Error → String
  | .truncated offset needed available =>
    "not enough bytes: need " ++ Numeral.decimal needed ++ " at offset " ++
      Numeral.decimal offset ++ ", have " ++ Numeral.decimal available
  | .trailingBytes count => Numeral.decimal count ++ " trailing byte(s) after RLP object"
  | .tooDeep offset =>
    "lists nested deeper than " ++ Numeral.decimal maxDepth ++ " levels at offset " ++
      Numeral.decimal offset

/-- A place in a byte string. -/
structure Cursor where
  /-- The bytes from here on. -/
  rest : Bytes
  /-- The number of bytes before. -/
  position : Nat

namespace Cursor

/-- Checks that so many bytes lie between the cursor and the limit. -/
def ensure (c : Cursor) (count limit : Nat) : Except Error Unit :=
  if limit - c.position < count then
    .error (.truncated c.position count (limit - c.position))
  else .ok ()

/-- Takes so many bytes, all before the limit. -/
def take (c : Cursor) (count limit : Nat) : Except Error (Bytes × Cursor) := do
  c.ensure count limit
  return (c.rest.take count, ⟨c.rest.drop count, c.position + count⟩)

end Cursor

/-- What a header announces. -/
inductive Head where
  /-- A byte that stands for itself. -/
  | single (b : UInt8)
  /-- A byte string of that length. -/
  | bytes (length : Nat)
  /-- A list whose items take that many bytes. -/
  | list (length : Nat)
deriving DecidableEq

/-- Reads a length of `size` bytes. -/
def readLength (size limit : Nat) (c : Cursor) : Except Error (Nat × Cursor) := do
  let (digits, c) ← c.take size limit
  return (Bytes.toNatBE digits, c)

/-- Reads a header. -/
def readHead (limit : Nat) (c : Cursor) : Except Error (Head × Cursor) := do
  let (first, c) ← c.take 1 limit
  let b := Bytes.toNatBE first
  if b < 0x80 then return (.single (UInt8.ofNat b), c)
  else if b ≤ 0xb7 then return (.bytes (b - 0x80), c)
  else if b ≤ 0xbf then
    let (length, c) ← readLength (b - 0xb7) limit c
    return (.bytes length, c)
  else if b ≤ 0xf7 then return (.list (b - 0xc0), c)
  else
    let (length, c) ← readLength (b - 0xf7) limit c
    return (.list length, c)

/-- Reads items up to `stop`, in front of which those already read stand, the last one first. The
first argument bounds the number of items; every item takes a byte at least. -/
def readItems (readItem : Cursor → Except Error (Rlp × Cursor)) (stop : Nat) :
    Nat → List Rlp → Cursor → Except Error (Rlp × Cursor)
  | 0, done, c => .ok (.list done.reverse, c)
  | count + 1, done, c =>
    if c.position < stop then
      match readItem c with
      | .error e => .error e
      | .ok (item, c) => readItems readItem stop count (item :: done) c
    else .ok (.list done.reverse, c)

/-- Reads one object, which ends before the limit and in which lists are nested at most `depth`
deep. -/
def readItem (depth limit : Nat) (c : Cursor) : Except Error (Rlp × Cursor) := do
  match ← readHead limit c with
  | (.single b, c) => return (.bytes [b], c)
  | (.bytes length, c) =>
    let (payload, c) ← c.take length limit
    return (.bytes payload, c)
  | (.list length, c) =>
    c.ensure length limit
    match depth with
    | 0 => throw (.tooDeep c.position)
    | depth + 1 =>
      let stop := c.position + length
      readItems (fun c => readItem depth stop c) stop length [] c

/-- The object that the bytes encode. -/
def decode (bytes : Bytes) : Except Error Rlp := do
  let size := bytes.length
  let (object, c) ← readItem maxDepth size ⟨bytes, 0⟩
  if c.position < size then throw (.trailingBytes (size - c.position))
  return object

end ScoreDeploy.Rlp
