import ScoreDeploy.Bytes.Basic

/-!
# Recursive length prefix

An `Rlp` object is a byte string or a list of objects. `encode` gives its canonical encoding: a
single byte below `0x80` stands for itself, and everything else is a header followed by a payload,
where the header tells the kind and the length of the payload in as few bytes as it can.
-/

namespace ScoreDeploy

/-- A byte string or a list of objects. -/
inductive Rlp where
  | bytes (payload : Bytes)
  | list (items : List Rlp)

namespace Rlp

/-- The bytes of a length from the first one that is not zero on, the most significant first. -/
def lengthBytes (length : Nat) : Bytes :=
  (Bytes.ofNatBE 8 length).dropWhile (· == 0)

/-- The header of a payload of that length. `kind` is the header of an empty payload; up to 55 is
added to it for a short payload, and from 56 on the number of bytes that the length takes. -/
def header (kind : UInt8) (length : Nat) : Bytes :=
  if length ≤ 55 then [kind + UInt8.ofNat length]
  else
    let digits := lengthBytes length
    (kind + 55 + UInt8.ofNat digits.length) :: digits

/-- A payload after its header. -/
def framed (kind : UInt8) (payload : Bytes) : Bytes :=
  header kind payload.length ++ payload

/-- The encoding of a byte string. -/
def encodeBytes (payload : Bytes) : Bytes :=
  match payload with
  | [b] => if b < 0x80 then [b] else framed 0x80 payload
  | _ => framed 0x80 payload

mutual

/-- The canonical encoding of an object. -/
def encode : Rlp → Bytes
  | .bytes payload => encodeBytes payload
  | .list items => framed 0xc0 (encodeItems [] items)

/-- The encodings of the items one after another, behind those already `done`, the last one
first. -/
def encodeItems (done : List Bytes) : List Rlp → Bytes
  | [] => done.reverse.flatten
  | item :: rest => encodeItems (encode item :: done) rest

end

theorem encodeItems_eq (done : List Bytes) (items : List Rlp) :
    encodeItems done items = done.reverse.flatten ++ encodeItems [] items := by
  induction items generalizing done with
  | nil => simp [encodeItems]
  | cons item rest ih =>
    simp only [encodeItems]
    rw [ih (encode item :: done), ih [encode item]]
    simp

theorem encodeItems_cons (item : Rlp) (rest : List Rlp) :
    encodeItems [] (item :: rest) = encode item ++ encodeItems [] rest := by
  rw [encodeItems, encodeItems_eq]
  simp

end Rlp

end ScoreDeploy
