import ScoreDeploy.Bytes.Basic

/-!
# The Keccak sponge

The state is a five by five square of 64-bit lanes. A round is the composition of the five steps
`theta`, `rho` with `pi`, `chi` and `iota`; the permutation is twenty-four rounds. A message is
padded to blocks of 136 bytes, each block is added to the state before a permutation, and the first
32 bytes of the final state are the digest. `sha3` and `keccak` differ in the byte that starts the
padding.
-/

namespace ScoreDeploy.Keccak

/-- The five lanes of a row. -/
structure Row where
  a : UInt64
  b : UInt64
  c : UInt64
  d : UInt64
  e : UInt64

/-- The five rows of the square. -/
structure State where
  p : Row
  q : Row
  r : Row
  s : Row
  t : Row

/-- The row of nothing but zeros. -/
def Row.zero : Row := ⟨0, 0, 0, 0, 0⟩

/-- The state before anything is taken in. -/
def State.zero : State := ⟨.zero, .zero, .zero, .zero, .zero⟩

/-- The row with each lane added to that of the same column in another row. -/
def Row.xor (r s : Row) : Row :=
  ⟨r.a ^^^ s.a, r.b ^^^ s.b, r.c ^^^ s.c, r.d ^^^ s.d, r.e ^^^ s.e⟩

/-- The state with each row added to that of another state. -/
def State.xor (s t : State) : State :=
  ⟨s.p.xor t.p, s.q.xor t.q, s.r.xor t.r, s.s.xor t.s, s.t.xor t.t⟩

/-- A word turned left by `n` places, for `n` between 1 and 63. -/
@[inline]
def rotate (w n : UInt64) : UInt64 :=
  (w <<< n) ||| (w >>> (64 - n))

/-- Adds to each lane the parities of the two neighbouring columns. -/
def theta (s : State) : State :=
  let parity := (((s.p.xor s.q).xor s.r).xor s.s).xor s.t
  let effect : Row :=
    ⟨parity.e ^^^ rotate parity.b 1, parity.a ^^^ rotate parity.c 1,
      parity.b ^^^ rotate parity.d 1, parity.c ^^^ rotate parity.e 1,
      parity.d ^^^ rotate parity.a 1⟩
  ⟨s.p.xor effect, s.q.xor effect, s.r.xor effect, s.s.xor effect, s.t.xor effect⟩

/-- Turns each lane by its offset and moves it to its new place: to column `x` of row `y` comes what
was in column `x + 3 * y` of row `x`, both counted round. -/
def rhoPi (s : State) : State :=
  ⟨⟨s.p.a, rotate s.q.b 44, rotate s.r.c 43, rotate s.s.d 21, rotate s.t.e 14⟩,
    ⟨rotate s.p.d 28, rotate s.q.e 20, rotate s.r.a 3, rotate s.s.b 45, rotate s.t.c 61⟩,
    ⟨rotate s.p.b 1, rotate s.q.c 6, rotate s.r.d 25, rotate s.s.e 8, rotate s.t.a 18⟩,
    ⟨rotate s.p.e 27, rotate s.q.a 36, rotate s.r.b 10, rotate s.s.c 15, rotate s.t.d 56⟩,
    ⟨rotate s.p.c 62, rotate s.q.d 55, rotate s.r.e 39, rotate s.s.a 41, rotate s.t.b 2⟩⟩

/-- Combines each lane of a row with the two that follow it. -/
def Row.chi (r : Row) : Row :=
  ⟨r.a ^^^ (~~~ r.b &&& r.c), r.b ^^^ (~~~ r.c &&& r.d), r.c ^^^ (~~~ r.d &&& r.e),
    r.d ^^^ (~~~ r.e &&& r.a), r.e ^^^ (~~~ r.a &&& r.b)⟩

/-- Combines the lanes in all rows. -/
def chi (s : State) : State :=
  ⟨s.p.chi, s.q.chi, s.r.chi, s.s.chi, s.t.chi⟩

/-- The constants of the twenty-four rounds. -/
def roundConstants : List UInt64 := [
  0x0000000000000001, 0x0000000000008082, 0x800000000000808A, 0x8000000080008000,
  0x000000000000808B, 0x0000000080000001, 0x8000000080008081, 0x8000000000008009,
  0x000000000000008A, 0x0000000000000088, 0x0000000080008009, 0x000000008000000A,
  0x000000008000808B, 0x800000000000008B, 0x8000000000008089, 0x8000000000008003,
  0x8000000000008002, 0x8000000000000080, 0x000000000000800A, 0x800000008000000A,
  0x8000000080008081, 0x8000000000008080, 0x0000000080000001, 0x8000000080008008]

/-- Adds a round constant to the first lane. -/
def iota (constant : UInt64) (s : State) : State :=
  { s with p.a := s.p.a ^^^ constant }

/-- The permutation of the state. -/
def permute (s : State) : State :=
  roundConstants.foldl (fun s constant => iota constant (chi (rhoPi (theta s)))) s

/-- The bytes of a block, and the bytes that a digest is taken from. -/
def rate : Nat := 136

/-- The message filled up to whole blocks: `first`, then zeros, and a one in the last bit. -/
def pad (first : UInt8) (message : Bytes) : Bytes :=
  let room := rate - message.length % rate
  if room = 1 then message ++ [first ||| 0x80]
  else message ++ first :: List.replicate (room - 2) 0 ++ [0x80]

/-- The lane of that index in a block of bytes, eight bytes to a lane. -/
def lane (block : Bytes) (i : Nat) : UInt64 :=
  UInt64.ofNat (Bytes.toNatLE ((block.drop (8 * i)).take 8))

/-- The state with a block in its first seventeen lanes, row by row. -/
def ofBlock (block : Bytes) : State :=
  ⟨⟨lane block 0, lane block 1, lane block 2, lane block 3, lane block 4⟩,
    ⟨lane block 5, lane block 6, lane block 7, lane block 8, lane block 9⟩,
    ⟨lane block 10, lane block 11, lane block 12, lane block 13, lane block 14⟩,
    ⟨lane block 15, lane block 16, 0, 0, 0⟩, .zero⟩

/-- Takes in that many blocks from the front of the bytes. -/
def absorb : Nat → State → Bytes → State
  | 0, s, _ => s
  | blocks + 1, s, bytes =>
    absorb blocks (permute (s.xor (ofBlock (bytes.take rate)))) (bytes.drop rate)

/-- The digest of a message whose padding starts with `first`. -/
def digest (first : UInt8) (message : Bytes) : Bytes :=
  let padded := pad first message
  let row := (absorb (padded.length / rate) .zero padded).p
  [row.a, row.b, row.c, row.d].flatMap fun lane => Bytes.ofNatLE 8 lane.toNat

/-- SHA3-256, as standardised. -/
def sha3 (message : Bytes) : Bytes :=
  digest 0x06 message

/-- Keccak-256 with the padding from before the standard. -/
def keccak (message : Bytes) : Bytes :=
  digest 0x01 message

end ScoreDeploy.Keccak
