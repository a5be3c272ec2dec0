import RelyingParty.Key.Member

set_option autoImplicit false

/-! # RSA keys

An RSA key is a key object of the kind `RSA`, or armored text. An object may hold the private half
too. It then has to be in order, though only the public half is used: either all of the numbers that
follow from the primes are there or none of them, and they belong together. -/

namespace RelyingParty.Key

open Digest

/-- A rule about the numbers of a key, with its wording. -/
abbrev NumberRule := Bool × String

/-- All rules must hold; the first that does not is reported. -/
def checkRules (rules : List NumberRule) : Except KeyFailure Unit :=
  match rules.find? (!·.1) with
  | some (_, message) => badNumber message
  | none => .ok ()

/-! ## Public halves -/

/-- The parameters of a public key must be usable. -/
def checkPublic (key : RsaKey) : Except KeyFailure Unit :=
  checkRules
    [(3 ≤ key.modulus, "n must be >= 3."),
     (3 ≤ key.exponent && key.exponent < key.modulus, "e must be >= 3 and < n."),
     (key.exponent % 2 = 1, "e must be odd.")]

/-- The exponent of a key that states none: a number without bytes. -/
def noExponent : Value := .int 256

/-! ## Private halves -/

/-- The numbers that follow from the primes of a private key, and the primes. -/
def primeNumbers : List String := ["p", "q", "dp", "dq", "qi"]

/-- The numbers of a key with its private half must belong together. -/
def checkPair (pair : RsaPair) : Except KeyFailure Unit := do
  let n := pair.key.modulus
  let e := pair.key.exponent
  checkRules
    [(3 ≤ n, "modulus must be >= 3."),
     (pair.first < n, "p must be < modulus."),
     (pair.second < n, "q must be < modulus."),
     (pair.firstExponent < n, "dmp1 must be < modulus."),
     (pair.secondExponent < n, "dmq1 must be < modulus."),
     (pair.coefficient < n, "iqmp must be < modulus."),
     (pair.exponent < n, "private_exponent must be < modulus."),
     (3 ≤ e && e < n, "public_exponent must be >= 3 and < modulus."),
     (e % 2 = 1, "public_exponent must be odd."),
     (pair.firstExponent % 2 = 1, "dmp1 must be odd."),
     (pair.secondExponent % 2 = 1, "dmq1 must be odd."),
     (pair.first * pair.second = n, "p*q must equal modulus.")]
  if pair.isConsistent then return () else badNumber EncodingError.invalidPrivate.message

/-- The private half of a key object. -/
def pairOf (key : RsaKey) (fields : Members) : Except KeyFailure RsaPair := do
  let d ← numberOf fields "d"
  let present := primeNumbers.filter fun name => (Value.field? fields name).isSome
  if present.isEmpty then
    match RsaPair.ofExponents key d with
    | .ok pair => return pair
    | .error cause => badNumber cause.message
  else if present.length ≠ primeNumbers.length then throw (.refused .incomplete)
  else
    let p ← numberOf fields "p"
    let q ← numberOf fields "q"
    let dp ← numberOf fields "dp"
    let dq ← numberOf fields "dq"
    let qi ← numberOf fields "qi"
    return ⟨key, d, p, q, dp, dq, qi⟩

/-! ## Keys -/

/-- The key of a key object. -/
def rsaOfMembers (fields : Members) : Except KeyFailure RsaKey := do
  checkKind "RSA" fields
  let exponent ← number ((Value.field? fields "e").getD noExponent)
  let modulus ← numberOf fields "n"
  let key : RsaKey := ⟨modulus, exponent⟩
  match Value.field? fields "d" with
  | none => checkPublic key
  | some _ => checkPair (← pairOf key fields)
  return key

/-- The beginning of a text that is a certificate. -/
def certificateStart : String := "-----BEGIN CERTIFICATE-----"

/-- The key of a text. -/
def rsaOfText (s : String) : Except ArmoredError EncodedKey :=
  if certificateStart.toList.isPrefixOf s.toList then ArmoredKey.ofCertificate s
  else ArmoredKey.ofText s

/-- The key for RSA signatures that a value is. -/
def rsaKey : Value → Except KeyFailure EncodedKey
  | .dict fields => (rsaOfMembers fields).map .rsa
  | .text s => (rsaOfText s).mapError fun cause => .refused (.armored cause)
  | .brokenText _ => .error (.fault .notEncodable)
  | v => .error (.refused (.rsa v))

end RelyingParty.Key
