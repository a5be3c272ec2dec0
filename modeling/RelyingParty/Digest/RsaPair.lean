import RelyingParty.Digest.Signature

set_option autoImplicit false

/-! # RSA keys with their private half

The private half of an RSA key is an exponent that undoes the public one. It comes with the two
primes of the modulus and three numbers that follow from them. `isConsistent` says that the numbers
belong together.

Without the primes, `ofExponents` finds them: the product of both exponents, less one, is a multiple
of the order of the units modulo the product of the primes, and such a multiple gives the primes
away. -/

namespace RelyingParty.Digest

/-- An RSA key with its private half. -/
structure RsaPair where
  /-- The public half. -/
  key : RsaKey
  /-- The private exponent. -/
  exponent : Nat
  /-- The primes. -/
  first : Nat
  second : Nat
  /-- The exponent modulo each prime less one. -/
  firstExponent : Nat
  secondExponent : Nat
  /-- The inverse of the second prime modulo the first one. -/
  coefficient : Nat
  deriving DecidableEq, Repr

namespace RsaPair

/-- Whether the numbers of a key belong together. -/
def isConsistent (pair : RsaPair) : Bool :=
  let p := pair.first
  let q := pair.second
  pair.key.exponent != 1 && pair.key.exponent % 2 == 1 && p % 2 == 1 && q % 2 == 1
    && p * q == pair.key.modulus && isPrime p && isPrime q
    && pair.exponent * pair.key.exponent % Nat.lcm (p - 1) (q - 1) == 1
    && pair.firstExponent == pair.exponent % (p - 1)
    && pair.secondExponent == pair.exponent % (q - 1)
    && inverse? p q == some pair.coefficient

/-- Why the primes of a key are not found. -/
inductive RecoveryError where
  /-- An exponent is too small. -/
  | small
  /-- There is no modulus. -/
  | noModulus
  /-- The exponents do not undo each other. -/
  | mismatch
  /-- The exponents give no factors away. -/
  | noFactors
  deriving DecidableEq, Repr

/-- The wording of an error. -/
def RecoveryError.message : RecoveryError → String
  | .small => "d, e can't be <= 1"
  | .noModulus => "pow() 3rd argument cannot be 0"
  | .mismatch => "n, d, e don't match"
  | .noFactors => "Unable to compute factors p and q from exponent d."

/-- The number that has to survive both exponents. -/
def probe : Nat := 17

/-- A key by its public half and the private exponent. -/
def ofExponents (key : RsaKey) (exponent : Nat) : Except RecoveryError RsaPair :=
  let product := exponent * key.exponent
  if exponent ≤ 1 || key.exponent ≤ 1 then .error .small
  else if key.modulus = 0 then .error .noModulus
  else if powMod key.modulus probe product ≠ probe then .error .mismatch
  else
    match factors? key.modulus (product - 1) with
    | none => .error .noFactors
    | some (p, q) =>
      .ok ⟨key, exponent, p, q, exponent % (p - 1), exponent % (q - 1),
        (inverse? p q).getD 0⟩

end RsaPair

end RelyingParty.Digest
