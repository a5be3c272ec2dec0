import RelyingParty.Digest.Modular
import RelyingParty.Digest.Sha2

set_option autoImplicit false

/-! # Elliptic curves

The points of a curve `y² = x³ - 3x + b` over a prime field form a group, in which a fixed point is
added to itself to make public keys. Points are computed with in projective form, where `(x, y, z)`
stands for `(x/z², y/z³)`, so that only the result needs an inverse.

`Curve.verify` checks a signature: a pair of numbers that determines a point from the digest of a
message and the public key. -/

namespace RelyingParty.Digest

/-- A curve with the point that keys are multiples of. -/
structure Curve where
  /-- The size of the field. -/
  field : Nat
  /-- The constant of the equation. -/
  constant : Nat
  /-- The coordinates of the base point. -/
  baseX : Nat
  baseY : Nat
  /-- The number of multiples of the base point. -/
  order : Nat
  /-- The bytes of a coordinate. -/
  size : Nat
  deriving DecidableEq, Repr

/-- A point that is not the neutral one, by its coordinates. -/
structure Point where
  x : Nat
  y : Nat
  deriving DecidableEq, Repr

/-- A point in projective form; the neutral one has `z = 0`. -/
structure Projective where
  x : Nat
  y : Nat
  z : Nat

namespace Curve

/-! ## The curves -/

/-- The curve with a field of 256 bits. -/
def p256 : Curve where
  field := 0xffffffff00000001000000000000000000000000ffffffffffffffffffffffff
  constant := 0x5ac635d8aa3a93e7b3ebbd55769886bc651d06b0cc53b0f63bce3c3e27d2604b
  baseX := 0x6b17d1f2e12c4247f8bce6e563a440f277037d812deb33a0f4a13945d898c296
  baseY := 0x4fe342e2fe1a7f9b8ee7eb4a7c0f9e162bce33576b315ececbb6406837bf51f5
  order := 0xffffffff00000000ffffffffffffffffbce6faada7179e84f3b9cac2fc632551
  size := 32

/-- The curve with a field of 384 bits. -/
def p384 : Curve where
  field := 0xfffffffffffffffffffffffffffffffffffffffffffffffffffffffffffffffeffffffff0000000000000000ffffffff
  constant := 0xb3312fa7e23ee7e4988e056be3f82d19181d9c6efe8141120314088f5013875ac656398d8a2ed19d2a85c8edd3ec2aef
  baseX := 0xaa87ca22be8b05378eb1c71ef320ad746e1d3b628ba79b9859f741e082542a385502f25dbf55296c3a545e3872760ab7
  baseY := 0x3617de4a96262c6f5d9e98bf9292dc29f8f41dbd289a147ce9da3113b5f0b8c00a60b1ce1d7e819d7a431d7c90ea0e5f
  order := 0xffffffffffffffffffffffffffffffffffffffffffffffffc7634d81f4372ddf581a0db248b0a77aecec196accc52973
  size := 48

/-- The curve with a field of 521 bits. -/
def p521 : Curve where
  field := 0x01ffffffffffffffffffffffffffffffffffffffffffffffffffffffffffffffffffffffffffffffffffffffffffffffffffffffffffffffffffffffffffffffffff
  constant := 0x0051953eb9618e1c9a1f929a21a0b68540eea2da725b99b315f3b8b489918ef109e156193951ec7e937b1652c0bd3bb1bf073573df883d2c34f1ef451fd46b503f00
  baseX := 0x00c6858e06b70404e9cd9e3ecb662395b4429c648139053fb521f828af606b4d3dbaa14b5e77efe75928fe1dc127a2ffa8de3348b3c1856a429bf97e7e31c2e5bd66
  baseY := 0x011839296a789a3bc0045c8a5fb42c7d1bd998f54449579b446817afbd17273e662c97ee72995ef42640c550b9013fad0761353c7086a272c24088be94769fd16650
  order := 0x01fffffffffffffffffffffffffffffffffffffffffffffffffffffffffffffffffa51868783bf2f966b7fcc0148f709a5d03bb5c9b8899c47aebb6fb71e91386409
  size := 66

/-! ## Points -/

/-- The difference of two numbers modulo the size of the field. -/
def minus (c : Curve) (a b : Nat) : Nat := (a + (c.field - b % c.field)) % c.field

/-- The square of the second coordinate that belongs to a first one. -/
def squareAt (c : Curve) (x : Nat) : Nat := c.minus (x * x * x + c.constant) (3 * x)

/-- Whether a point lies on the curve. -/
def contains (c : Curve) (p : Point) : Bool := p.y * p.y % c.field == c.squareAt p.x

/-- The base point. -/
def base (c : Curve) : Point := ⟨c.baseX, c.baseY⟩

/-- The neutral point. -/
def neutral : Projective := ⟨1, 1, 0⟩

/-- A point in projective form. -/
def project (p : Point) : Projective := ⟨p.x, p.y, 1⟩

/-- A point by its coordinates; the neutral one has none. -/
def affine? (c : Curve) (p : Projective) : Option Point :=
  (inverse? c.field p.z).map fun i =>
    let ii := i * i % c.field
    ⟨p.x * ii % c.field, p.y * ii % c.field * i % c.field⟩

/-- A point added to itself. -/
def double (c : Curve) (p : Projective) : Projective :=
  if p.z = 0 then p
  else
    let yy := p.y * p.y % c.field
    let zz := p.z * p.z % c.field
    let s := 4 * p.x * yy % c.field
    let m := 3 * (c.minus p.x zz * (p.x + zz)) % c.field
    let x := c.minus (m * m) (2 * s)
    ⟨x, c.minus (m * c.minus s x) (8 * yy * yy), 2 * p.y * p.z % c.field⟩

/-- The sum of two points. -/
def add (c : Curve) (p q : Projective) : Projective :=
  if p.z = 0 then q
  else if q.z = 0 then p
  else
    let pzz := p.z * p.z % c.field
    let qzz := q.z * q.z % c.field
    let px := p.x * qzz % c.field
    let qx := q.x * pzz % c.field
    let py := p.y * qzz % c.field * q.z % c.field
    let qy := q.y * pzz % c.field * p.z % c.field
    if px = qx then if py = qy then c.double p else neutral
    else
      let h := c.minus qx px
      let r := c.minus qy py
      let hh := h * h % c.field
      let hhh := h * hh % c.field
      let v := px * hh % c.field
      let x := c.minus (c.minus (r * r) hhh) (2 * v)
      ⟨x, c.minus (r * c.minus v x) (py * hhh), h * p.z % c.field * q.z % c.field⟩

/-- A multiple of a point, by repeated doubling. -/
def multiply (c : Curve) (k : Nat) (p : Projective) : Projective :=
  if _h : k = 0 then neutral
  else
    let half := c.multiply (k / 2) (c.double p)
    if k % 2 = 1 then c.add p half else half
termination_by k
decreasing_by omega

/-- The second coordinate of a point, by its first one and by whether it is odd. -/
def lift? (c : Curve) (x : Nat) (isOdd : Bool) : Option Point :=
  let square := c.squareAt x
  let y := powMod c.field square ((c.field + 1) / 4)
  if x < c.field && y * y % c.field == square then
    some ⟨x, if (y % 2 == 1) == isOdd then y else c.minus 0 y⟩
  else none

/-! ## Signatures -/

/-- The number that a digest stands for: as many of its leading bits as the order has. -/
def messageNumber (c : Curve) (digest : Bytes) : Nat :=
  let bits := Nat.log2 c.order + 1
  beNat digest >>> (8 * digest.length - bits)

/-- Whether a pair of numbers signs a digest under a public key. -/
def accepts (c : Curve) (key : Point) (digest : Bytes) (r s : Nat) : Bool :=
  if r = 0 || s = 0 || c.order ≤ r || c.order ≤ s then false
  else
    match inverse? c.order s with
    | none => false
    | some w =>
      let u := c.messageNumber digest * w % c.order
      let v := r * w % c.order
      let sum := c.add (c.multiply u (project c.base)) (c.multiply v (project key))
      match c.affine? sum with
      | some p => p.x % c.order == r
      | none => false

/-- Whether a signature, two numbers of the size of a coordinate, signs a message. -/
def verify (c : Curve) (hash : Hash) (key : Point) (message signature : Bytes) : Bool :=
  signature.length == 2 * c.size
    && c.accepts key (hash.digest message) (beNat (signature.take c.size))
      (beNat (signature.drop c.size))

end Curve

end RelyingParty.Digest
