import ScoreDeploy.Bytes.Basic

/-!
# SHA-256 and its keyed forms

`hash` is SHA-256. `MacKey.ofBytes` takes in a key once and `MacKey.tag` then computes HMAC-SHA256
of any number of messages under it; `pbkdf2` stretches a password by iterating that.
-/

namespace ScoreDeploy.Sha256

/-- The chaining value: eight words. -/
structure State where
  a : UInt32
  b : UInt32
  c : UInt32
  d : UInt32
  e : UInt32
  f : UInt32
  g : UInt32
  h : UInt32

/-- The chaining value at the start. -/
def initial : State :=
  ⟨0x6a09e667, 0xbb67ae85, 0x3c6ef372, 0xa54ff53a, 0x510e527f, 0x9b05688c, 0x1f83d9ab, 0x5be0cd19⟩

/-- The constants of the sixty-four rounds. -/
def roundConstants : List UInt32 := [
  0x428a2f98, 0x71374491, 0xb5c0fbcf, 0xe9b5dba5, 0x3956c25b, 0x59f111f1, 0x923f82a4, 0xab1c5ed5,
  0xd807aa98, 0x12835b01, 0x243185be, 0x550c7dc3, 0x72be5d74, 0x80deb1fe, 0x9bdc06a7, 0xc19bf174,
  0xe49b69c1, 0xefbe4786, 0x0fc19dc6, 0x240ca1cc, 0x2de92c6f, 0x4a7484aa, 0x5cb0a9dc, 0x76f988da,
  0x983e5152, 0xa831c66d, 0xb00327c8, 0xbf597fc7, 0xc6e00bf3, 0xd5a79147, 0x06ca6351, 0x14292967,
  0x27b70a85, 0x2e1b2138, 0x4d2c6dfc, 0x53380d13, 0x650a7354, 0x766a0abb, 0x81c2c92e, 0x92722c85,
  0xa2bfe8a1, 0xa81a664b, 0xc24b8b70, 0xc76c51a3, 0xd192e819, 0xd6990624, 0xf40e3585, 0x106aa070,
  0x19a4c116, 0x1e376c08, 0x2748774c, 0x34b0bcb5, 0x391c0cb3, 0x4ed8aa4a, 0x5b9cca4f, 0x682e6ff3,
  0x748f82ee, 0x78a5636f, 0x84c87814, 0x8cc70208, 0x90befffa, 0xa4506ceb, 0xbef9a3f7, 0xc67178f2]

/-- A word turned right by `n` places, for `n` between 1 and 31. -/
@[inline]
def rotate (w n : UInt32) : UInt32 :=
  (w >>> n) ||| (w <<< (32 - n))

/-- Puts that many words before a schedule whose last word comes first, each from four of the
sixteen before it. -/
def extend : Nat → List UInt32 → List UInt32
  | 0, w => w
  | count + 1, w =>
    let w15 := w.getD 14 0
    let w2 := w.getD 1 0
    let s0 := rotate w15 7 ^^^ rotate w15 18 ^^^ (w15 >>> 3)
    let s1 := rotate w2 17 ^^^ rotate w2 19 ^^^ (w2 >>> 10)
    extend count ((w.getD 15 0 + s0 + w.getD 6 0 + s1) :: w)

/-- Runs one round for each constant with its word of the schedule. -/
def rounds : List UInt32 → List UInt32 → State → State
  | k :: constants, w :: schedule, ⟨a, b, c, d, e, f, g, h⟩ =>
    let s1 := rotate e 6 ^^^ rotate e 11 ^^^ rotate e 25
    let choice := (e &&& f) ^^^ (~~~ e &&& g)
    let t1 := h + s1 + choice + k + w
    let s0 := rotate a 2 ^^^ rotate a 13 ^^^ rotate a 22
    let majority := (a &&& b) ^^^ (a &&& c) ^^^ (b &&& c)
    rounds constants schedule ⟨t1 + (s0 + majority), a, b, c, d + t1, e, f, g⟩
  | _, _, s => s

/-- The big-endian words of a byte string. -/
def words : Bytes → List UInt32
  | p :: q :: r :: s :: rest =>
    ((p.toUInt32 <<< 24) ||| (q.toUInt32 <<< 16) ||| (r.toUInt32 <<< 8) ||| s.toUInt32) ::
      words rest
  | _ => []

/-- Takes in one block of sixteen words. -/
def compress (s : State) (block : List UInt32) : State :=
  let t := rounds roundConstants (extend 48 block.reverse).reverse s
  ⟨s.a + t.a, s.b + t.b, s.c + t.c, s.d + t.d, s.e + t.e, s.f + t.f, s.g + t.g, s.h + t.h⟩

/-- Takes in that many blocks from the front of the bytes. -/
def absorb : Nat → State → Bytes → State
  | 0, s, _ => s
  | blocks + 1, s, bytes => absorb blocks (compress s (words (bytes.take 64))) (bytes.drop 64)

/-- The filling after a message of which `total` bytes have been taken in altogether: a one bit,
zeros up to the length field, and the number of bits. -/
def padding (total : Nat) : Bytes :=
  0x80 :: List.replicate ((119 - total % 64) % 64) 0 ++ Bytes.ofNatBE 8 (total * 8)

/-- The words of a state. -/
def State.toList (s : State) : List UInt32 :=
  [s.a, s.b, s.c, s.d, s.e, s.f, s.g, s.h]

/-- The bytes of a word, the most significant first. -/
def wordBytes (w : UInt32) : Bytes :=
  [(w >>> 24).toUInt8, (w >>> 16).toUInt8, (w >>> 8).toUInt8, w.toUInt8]

/-- The thirty-two bytes of a state. -/
def State.toBytes (s : State) : Bytes :=
  s.toList.flatMap wordBytes

/-- Takes in the rest of a message, after `before` bytes in whole blocks, and finishes. -/
def finish (s : State) (before : Nat) (rest : Bytes) : State :=
  let padded := rest ++ padding (before + rest.length)
  absorb (padded.length / 64) s padded

/-- SHA-256 of a message. -/
def hash (message : Bytes) : Bytes :=
  (finish initial 0 message).toBytes

/-- A key of HMAC-SHA256, as the two states that it leads to. -/
structure MacKey where
  inner : State
  outer : State

/-- Takes in a key, which is hashed first when it is longer than a block. -/
def MacKey.ofBytes (key : Bytes) : MacKey :=
  let short := if 64 < key.length then hash key else key
  let block := short ++ List.replicate (64 - short.length) 0
  { inner := compress initial (words (block.map (· ^^^ 0x36)))
    outer := compress initial (words (block.map (· ^^^ 0x5c))) }

/-- HMAC-SHA256 of a message. -/
def MacKey.tag (key : MacKey) (message : Bytes) : Bytes :=
  (finish key.outer 64 (finish key.inner 64 message).toBytes).toBytes

/-- The words that follow a digest of eight words after one earlier block. -/
def digestFilling : List UInt32 :=
  [0x80000000, 0, 0, 0, 0, 0, 0, 768]

/-- HMAC-SHA256 of a message that is a state's eight words. -/
def MacKey.retag (key : MacKey) (s : State) : State :=
  compress key.outer ((compress key.inner (s.toList ++ digestFilling)).toList ++ digestFilling)

/-- Word by word exclusive or. -/
def State.xor (s t : State) : State :=
  ⟨s.a ^^^ t.a, s.b ^^^ t.b, s.c ^^^ t.c, s.d ^^^ t.d, s.e ^^^ t.e, s.f ^^^ t.f, s.g ^^^ t.g,
    s.h ^^^ t.h⟩

/-- Repeats the tag that many times and adds up the results. -/
def stretch (key : MacKey) : Nat → State → State → State
  | 0, _, sum => sum
  | count + 1, last, sum =>
    let next := key.retag last
    stretch key count next (sum.xor next)

/-- One block of a derived key; its number is counted from one. -/
def pbkdf2Block (key : MacKey) (salt : Bytes) (iterations number : Nat) : Bytes :=
  let inner := finish key.inner 64 (salt ++ Bytes.ofNatBE 4 number)
  let first := finish key.outer 64 inner.toBytes
  (stretch key (iterations - 1) first first).toBytes

/-- PBKDF2 with HMAC-SHA256: `length` bytes from a password. At least one iteration is done. -/
def pbkdf2 (password salt : Bytes) (iterations length : Nat) : Bytes :=
  let key := MacKey.ofBytes password
  let blocks := (List.range ((length + 31) / 32)).flatMap fun i =>
    pbkdf2Block key salt iterations (i + 1)
  blocks.take length

end ScoreDeploy.Sha256
