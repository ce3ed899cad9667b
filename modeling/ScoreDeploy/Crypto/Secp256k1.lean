import ScoreDeploy.Crypto.Sha256

/-!
# Signatures over secp256k1

The curve is `y² = x³ + 7` over the integers modulo `fieldSize`; `base` generates a group of
`order` points. A point is kept as three coordinates whose last one is zero for the point at
infinity. `sign` is ECDSA with the nonce derived from the key and the digest, the lower of the two
possible values of `s`, and a recovery number from which `recover?` finds the public key again.
-/

namespace ScoreDeploy.Secp256k1

/-- The number of elements of the field. -/
def fieldSize : Nat :=
  0xFFFFFFFFFFFFFFFFFFFFFFFFFFFFFFFFFFFFFFFFFFFFFFFFFFFFFFFEFFFFFC2F

/-- The number of points of the group. -/
def order : Nat :=
  0xFFFFFFFFFFFFFFFFFFFFFFFFFFFFFFFEBAAEDCE6AF48A03BBFD25E8CD0364141

/-- `base ^ exponent` modulo `modulus`, by squaring once for each of the lowest `bits` bits. -/
def powMod (modulus : Nat) : Nat → Nat → Nat → Nat
  | 0, _, _ => 1 % modulus
  | bits + 1, base, exponent =>
    let rest := powMod modulus bits (base * base % modulus) (exponent / 2)
    if exponent % 2 = 1 then rest * base % modulus else rest

/-- The inverse of a number that the prime modulus does not divide. -/
def inverseMod (modulus n : Nat) : Nat :=
  powMod modulus 256 (n % modulus) (modulus - 2)

/-- The difference of two numbers below the modulus. -/
def subMod (modulus a b : Nat) : Nat :=
  (a + (modulus - b)) % modulus

/-- A point with coordinates `x / z²` and `y / z³`. -/
structure Point where
  x : Nat
  y : Nat
  z : Nat

/-- The point at infinity. -/
def Point.infinity : Point := ⟨1, 1, 0⟩

/-- The generator of the group. -/
def Point.base : Point :=
  ⟨0x79BE667EF9DCBBAC55A06295CE870B07029BFCDB2DCE28D959F2815B16F81798,
    0x483ADA7726A3C4655DA4FBFC0E1108A8FD17B448A68554199C47D08FFB10D4B8, 1⟩

/-- A point added to itself. -/
def Point.double (p : Point) : Point :=
  if p.z = 0 ∨ p.y = 0 then .infinity
  else
    let a := p.x * p.x % fieldSize
    let b := p.y * p.y % fieldSize
    let c := b * b % fieldSize
    let d := 4 * p.x * b % fieldSize
    let e := 3 * a % fieldSize
    let x := subMod fieldSize (e * e % fieldSize) (2 * d % fieldSize)
    let y := subMod fieldSize (e * subMod fieldSize d x % fieldSize) (8 * c % fieldSize)
    ⟨x, y, 2 * p.y * p.z % fieldSize⟩

/-- The sum of two points. -/
def Point.add (p q : Point) : Point :=
  if p.z = 0 then q
  else if q.z = 0 then p
  else
    let pz := p.z * p.z % fieldSize
    let qz := q.z * q.z % fieldSize
    let u := p.x * qz % fieldSize
    let v := q.x * pz % fieldSize
    let s := p.y * qz * q.z % fieldSize
    let t := q.y * pz * p.z % fieldSize
    if u = v then (if s = t then p.double else .infinity)
    else
      let h := subMod fieldSize v u
      let r := subMod fieldSize t s
      let h2 := h * h % fieldSize
      let h3 := h2 * h % fieldSize
      let w := u * h2 % fieldSize
      let x := subMod fieldSize (subMod fieldSize (r * r % fieldSize) h3) (2 * w % fieldSize)
      let y := subMod fieldSize (r * subMod fieldSize w x % fieldSize) (s * h3 % fieldSize)
      ⟨x, y, h * p.z * q.z % fieldSize⟩

/-- A multiple of a point, by the lowest `bits` bits of the factor. -/
def Point.multiple : Nat → Nat → Point → Point
  | 0, _, _ => .infinity
  | bits + 1, factor, p =>
    let rest := multiple bits (factor / 2) p.double
    if factor % 2 = 1 then rest.add p else rest

/-- A multiple of a point by a number below `2 ^ 256`. -/
def Point.mul (factor : Nat) (p : Point) : Point :=
  p.multiple 256 factor

/-- The two coordinates of a point, unless it lies at infinity. -/
def Point.coordinates? (p : Point) : Option (Nat × Nat) :=
  if p.z = 0 then none
  else
    let inverse := inverseMod fieldSize p.z
    let square := inverse * inverse % fieldSize
    some (p.x * square % fieldSize, p.y * (square * inverse % fieldSize) % fieldSize)

/-- A private key: a number between zero and the order, both excluded. -/
structure PrivateKey where
  toNat : Nat
  pos : 0 < toNat
  lt_order : toNat < order

/-- The least private key. -/
def PrivateKey.least : PrivateKey :=
  ⟨1, Nat.one_pos, by decide⟩

/-- The private key written as thirty-two bytes. -/
def PrivateKey.ofBytes? (bytes : Bytes) : Option PrivateKey :=
  let n := Bytes.toNatBE bytes
  if h : bytes.length = 32 ∧ 0 < n ∧ n < order then some ⟨n, h.2.1, h.2.2⟩ else none

/-- The thirty-two bytes of a private key. -/
def PrivateKey.toBytes (key : PrivateKey) : Bytes :=
  Bytes.ofNatBE 32 key.toNat

/-- The coordinates of a public key. -/
structure PublicKey where
  x : Nat
  y : Nat
deriving DecidableEq

/-- The public key that belongs to a private key. -/
def PrivateKey.publicKey (key : PrivateKey) : PublicKey :=
  match (Point.base.mul key.toNat).coordinates? with
  | some (x, y) => ⟨x, y⟩
  | none => ⟨0, 0⟩

/-- Both coordinates of a public key, sixty-four bytes. -/
def PublicKey.coordinateBytes (key : PublicKey) : Bytes :=
  Bytes.ofNatBE 32 key.x ++ Bytes.ofNatBE 32 key.y

/-- The short form of a public key: the parity of the second coordinate, and the first one. -/
def PublicKey.compressed (key : PublicKey) : Bytes :=
  (if key.y % 2 = 0 then 2 else 3) :: Bytes.ofNatBE 32 key.x

/-- A signature that tells which public key made it. -/
structure Signature where
  r : Nat
  s : Nat
  /-- The parity of the nonce point's second coordinate, plus two if its first one exceeds the
  order. -/
  recovery : Nat

/-- The sixty-five bytes of a signature. -/
def Signature.toBytes (signature : Signature) : Bytes :=
  Bytes.ofNatBE 32 signature.r ++ Bytes.ofNatBE 32 signature.s ++
    [UInt8.ofNat signature.recovery]

/-- A generator of deterministic nonces. -/
structure Drbg where
  key : Bytes
  value : Bytes

/-- Replaces the key by one that depends on `input`, and the value by its tag under the new key. -/
def Drbg.stir (state : Drbg) (input : Bytes) : Drbg :=
  let key := (Sha256.MacKey.ofBytes state.key).tag (state.value ++ input)
  ⟨key, (Sha256.MacKey.ofBytes key).tag state.value⟩

/-- The generator for a private key and a digest. -/
def Drbg.seed (secret digest : Bytes) : Drbg :=
  let start : Drbg := ⟨List.replicate 32 0, List.replicate 32 1⟩
  (start.stir (0 :: secret ++ digest)).stir (1 :: secret ++ digest)

/-- The next thirty-two bytes as a number, and the generator after them. -/
def Drbg.next (state : Drbg) : Nat × Drbg :=
  let value := (Sha256.MacKey.ofBytes state.key).tag state.value
  (Bytes.toNatBE value, ⟨state.key, value⟩)

/-- The signature of a digest with one nonce, unless the nonce is unfit. -/
def signWith? (key : PrivateKey) (digest nonce : Nat) : Option Signature := do
  guard (0 < nonce ∧ nonce < order)
  let (x, y) ← (Point.base.mul nonce).coordinates?
  let r := x % order
  let s := inverseMod order nonce * (digest + r * key.toNat) % order
  guard (r ≠ 0 ∧ s ≠ 0)
  let recovery := y % 2 + (if order ≤ x then 2 else 0)
  if order / 2 < s then
    return ⟨r, order - s, if recovery % 2 = 0 then recovery + 1 else recovery - 1⟩
  else
    return ⟨r, s, recovery⟩

/-- Tries that many nonces in turn. -/
def signFrom? (key : PrivateKey) (digest : Nat) : Nat → Drbg → Option Signature
  | 0, _ => none
  | tries + 1, state =>
    let (nonce, later) := state.next
    match signWith? key digest nonce with
    | some signature => some signature
    | none => signFrom? key digest tries (later.stir [0])

/-- The signature of a digest of thirty-two bytes. A nonce is unfit with a chance of about one in
`2 ^ 128`; the answer is `none` if 64 of them are in a row. -/
def sign? (key : PrivateKey) (digest : Bytes) : Option Signature :=
  let reduced := Bytes.toNatBE digest % order
  signFrom? key reduced 64 (.seed key.toBytes (Bytes.ofNatBE 32 reduced))

/-- The signature that sixty-five bytes stand for. -/
def Signature.ofBytes? (bytes : Bytes) : Option Signature := do
  let r := Bytes.toNatBE (bytes.take 32)
  let s := Bytes.toNatBE ((bytes.drop 32).take 32)
  match bytes.drop 64 with
  | [recovery] =>
    guard (r < order ∧ s < order ∧ recovery < 4)
    return ⟨r, s, recovery.toNat⟩
  | _ => none

/-- The public key that a signature of the digest was made with. -/
def recover? (digest bytes : Bytes) : Option PublicKey := do
  let signature ← Signature.ofBytes? bytes
  let x := signature.r + (if 2 ≤ signature.recovery then order else 0)
  guard (0 < signature.r ∧ 0 < signature.s ∧ x < fieldSize)
  let square := (x * x % fieldSize * x + 7) % fieldSize
  let root := powMod fieldSize 256 square ((fieldSize + 1) / 4)
  guard (root * root % fieldSize = square)
  let y := if root % 2 = signature.recovery % 2 then root else fieldSize - root
  let inverse := inverseMod order signature.r
  let m := Bytes.toNatBE digest % order
  let u := (order - m) * inverse % order
  let v := signature.s * inverse % order
  let (px, py) ← ((Point.base.mul u).add (Point.mul v ⟨x, y, 1⟩)).coordinates?
  return ⟨px, py⟩

end ScoreDeploy.Secp256k1
