set_option autoImplicit false

/-! # Arithmetic modulo a number

Powers by repeated squaring, inverses by the extended division algorithm, and a test for primes. The
test looks for a square root of one that a prime modulus does not have, from the first forty prime
bases; the numbers it is asked about are the factors of keys. -/

namespace RelyingParty.Digest

/-! ## Powers -/

/-- A power modulo a number, by repeated squaring. -/
def powMod (modulus base exponent : Nat) : Nat :=
  if _h : exponent = 0 then 1 % modulus
  else
    let half := powMod modulus (base * base % modulus) (exponent / 2)
    if exponent % 2 = 1 then base * half % modulus else half
termination_by exponent
decreasing_by omega

/-! ## Inverses -/

/-- The last coefficient of the extended division of `a` by `b`: `s` and `t` belong to them. -/
def euclid (a b : Nat) (s t : Int) : Nat × Int :=
  if _h : b = 0 then (a, s) else euclid b (a % b) t (s - (a / b : Nat) * t)
termination_by b
decreasing_by exact Nat.mod_lt a (Nat.pos_of_ne_zero _h)

/-- The inverse of a number modulo another one, if it has one. -/
def inverse? (modulus a : Nat) : Option Nat :=
  match euclid (a % modulus) modulus 1 0 with
  | (1, s) => some (s % modulus).toNat
  | _ => none

/-! ## Primes -/

/-- A number as an odd one and how often it was halved. -/
def oddPart (n : Nat) : Nat × Nat :=
  if _h : n = 0 ∨ n % 2 = 1 then (n, 0)
  else
    let (odd, twos) := oddPart (n / 2)
    (odd, twos + 1)
termination_by n
decreasing_by omega

/-- Whether `target` is met by squaring `x` at most `count` times. -/
def squaresMeet (modulus target : Nat) : Nat → Nat → Bool
  | 0, x => x == target
  | count + 1, x => x == target || squaresMeet modulus target count (x * x % modulus)

/-- The bases of the test. -/
def testBases : List Nat :=
  [2, 3, 5, 7, 11, 13, 17, 19, 23, 29, 31, 37, 41, 43, 47, 53, 59, 61, 67, 71, 73, 79, 83, 89, 97,
   101, 103, 107, 109, 113, 127, 131, 137, 139, 149, 151, 157, 163, 167, 173]

/-- Whether an odd number above the base looks like a prime to it. -/
def passes (n base : Nat) : Bool :=
  let (odd, twos) := oddPart (n - 1)
  let x := powMod n base odd
  x == 1 || squaresMeet n (n - 1) (twos - 1) x

/-- Whether a number is a prime. -/
def isPrime (n : Nat) : Bool :=
  if n < 2 then false
  else if testBases.contains n then true
  else testBases.all fun base => n % base != 0 && passes n base

/-! ## Factors of a modulus -/

/-- A square root of one that is neither one nor its negative, among `x` and its `count` squares. -/
def oddRoot? (modulus : Nat) : Nat → Nat → Option Nat
  | 0, _ => none
  | count + 1, x =>
    if x != 1 && x != modulus - 1 && x * x % modulus == 1 then some x
    else oddRoot? modulus count (x * x % modulus)

/-- Two factors of a modulus, from a multiple of the order of its units: the larger one first. -/
def factors? (modulus multiple : Nat) : Option (Nat × Nat) :=
  let (odd, twos) := oddPart multiple
  let root := testBases.findSome? fun base => oddRoot? modulus twos (powMod modulus base odd)
  root.map fun x =>
    let p := Nat.gcd (x + 1) modulus
    let q := modulus / p
    (max p q, min p q)

end RelyingParty.Digest
