import RelyingParty.Digest.Curve
import RelyingParty.Digest.RsaPair
import RelyingParty.Entries
import RelyingParty.Key.Der

set_option autoImplicit false

/-! # Encoded keys

The structures that hold keys: a public key with the name of its algorithm, the two numbers of an
RSA key alone, a private key with the name of its algorithm, the numbers of an RSA key with its
private half, the number that is a private key on a curve, and a certificate with a public key in
it.

`PublicKey.ofEncoding` and `PrivateKey.ofEncoding` read a key. What a reader of signatures needs of
it is an `EncodedKey`: the public half of an RSA key or a point on a curve. Other keys are read as
far as they have to be well-formed. -/

namespace RelyingParty.Key

open Digest

/-! ## Keys and errors -/

/-- A key that has been read. -/
inductive EncodedKey where
  /-- The public half of an RSA key. -/
  | rsa (key : RsaKey)
  /-- A public key on a curve. -/
  | point (curve : Curve) (point : Point)
  /-- A key that verifies no signature. -/
  | other
  deriving DecidableEq, Repr

/-- Why an encoding is no key. -/
inductive EncodingError where
  /-- It is not a structure of elements as it should be. -/
  | form (cause : DerError)
  /-- The algorithm is not known. -/
  | algorithm (name : String)
  /-- The curve is not known. -/
  | curve (name : String)
  /-- The curve is described and not named. -/
  | explicitCurve
  /-- The parts do not belong together. -/
  | invalid
  /-- The numbers of a private key do not belong together. -/
  | invalidPrivate
  deriving DecidableEq, Repr

/-- The wording of an error. -/
def EncodingError.message : EncodingError → String
  | .form cause =>
    "Could not deserialize key data. The data may be in an incorrect format, it may be encrypted"
      ++ " with an unsupported algorithm, or it may be an unsupported key type (e.g. EC curves"
      ++ " with explicit parameters). Details: ASN.1 parsing error: "
      ++ cause.message
  | .algorithm name => "Unsupported key type: " ++ name
  | .curve name => "Curve " ++ name ++ " is not supported"
  | .explicitCurve => "ECDSA keys with explicit parameters are unsupported at this time"
  | .invalid => "Invalid key"
  | .invalidPrivate => "Invalid private key"

/-- The result of reading some bytes as a structure. -/
def structureOf {α : Type} (d : Der α) (bytes : Bytes) : Except EncodingError α :=
  (d.whole bytes).mapError .form

/-! ## Algorithms -/

/-- The curves that have names. -/
def curves : List (String × Option Curve) :=
  [("1.2.840.10045.3.1.7", some Curve.p256), ("1.3.132.0.34", some Curve.p384),
   ("1.3.132.0.35", some Curve.p521), ("1.2.840.10045.3.1.1", none), ("1.3.132.0.33", none),
   ("1.3.132.0.10", none), ("1.3.132.0.1", none), ("1.3.132.0.15", none), ("1.3.132.0.16", none),
   ("1.3.132.0.17", none), ("1.3.132.0.26", none), ("1.3.132.0.27", none), ("1.3.132.0.36", none),
   ("1.3.132.0.37", none), ("1.3.132.0.38", none), ("1.3.132.0.39", none),
   ("1.3.36.3.3.2.8.1.1.7", none), ("1.3.36.3.3.2.8.1.1.11", none),
   ("1.3.36.3.3.2.8.1.1.13", none)]

/-- How a key names its curve. -/
inductive CurveName where
  | named (name : String)
  | described
  deriving DecidableEq, Repr

/-- The curve of a name; none if signatures on it are not verified. -/
def CurveName.curve? : CurveName → Except EncodingError (Option Curve)
  | .described => .error .explicitCurve
  | .named name =>
    match Entries.get? curves name with
    | some curve => .ok curve
    | none => .error (.curve name)

/-- What kind of key an algorithm has. -/
inductive KeyKind where
  | rsa
  | curve (name : CurveName)
  /-- A key that is one string of bytes of a length. -/
  | string (length : Nat)
  /-- A number, in a group that the parameters describe. -/
  | discrete
  | unknown (name : String)
  deriving DecidableEq, Repr

/-- The algorithms whose keys are strings of bytes, with their length. -/
def stringAlgorithms : List (String × Nat) :=
  [("1.3.101.110", 32), ("1.3.101.111", 56), ("1.3.101.112", 32), ("1.3.101.113", 57)]

/-- A curve, by its name or by a description. -/
def curveName : Der CurveName := do
  match ← Der.nextTag with
  | some t =>
    if t = .objectIdentifier then return .named (← Der.name)
    else if t = .null then
      Der.null
      return .described
    else if t = .sequence then
      let _ ← Der.elementOf .sequence
      return .described
    else
      let _ ← Der.element
      throw (.unexpected t)
  | none =>
    let _ ← Der.element
    throw .value

/-- Parameters of any form, or none. -/
def anyParameters : Der Unit := do
  if !(← get).isEmpty then
    let _ ← Der.element

/-- The kind of key an algorithm's name and parameters stand for. -/
def keyKind : Der KeyKind :=
  Der.sequence do
    let name ← Der.name
    if name = "1.2.840.113549.1.1.1" then
      if (← Der.nextTag) = some .null then Der.null
      return .rsa
    else if name = "1.2.840.113549.1.1.10" then
      let _ ← Der.optionalOf .sequence
      return .rsa
    else if name = "1.2.840.10045.2.1" then return .curve (← curveName)
    else if ["1.2.840.10040.4.1", "1.2.840.10046.2.1", "1.2.840.113549.1.3.1"].contains name then
      let _ ← Der.elementOf .sequence
      return .discrete
    else
      match Entries.get? stringAlgorithms name with
      | some length => return .string length
      | none =>
        anyParameters
        return .unknown name

/-! ## Public keys -/

namespace PublicKey

/-- The numbers of an RSA key. -/
def numbers : Der RsaKey :=
  Der.sequence do
    let modulus ← Der.natural
    let exponent ← Der.natural
    return ⟨modulus, exponent⟩

/-- An RSA key by its numbers alone. -/
def ofNumbers (bytes : Bytes) : Except EncodingError EncodedKey :=
  (structureOf numbers bytes).map .rsa

/-- A point on a curve: both coordinates, or the first one and whether the second one is odd. -/
def point? (c : Curve) : Bytes → Option Point
  | [] => none
  | form :: coordinates =>
    let x := beNat (coordinates.take c.size)
    let y := beNat (coordinates.drop c.size)
    let whole := coordinates.length = 2 * c.size && x < c.field && y < c.field
      && c.contains ⟨x, y⟩
    if form = 4 then if whole then some ⟨x, y⟩ else none
    else if form = 6 || form = 7 then
      if whole && y % 2 = form.toNat % 2 then some ⟨x, y⟩ else none
    else if form = 2 || form = 3 then
      if coordinates.length = c.size then c.lift? x (form = 3) else none
    else none

/-- A public key of a kind. -/
def ofKind (kind : KeyKind) (key : Bytes) : Except EncodingError EncodedKey :=
  match kind with
  | .rsa => ofNumbers key
  | .curve name => do
    match ← name.curve? with
    | none => return .other
    | some curve =>
      match point? curve key with
      | some p => return .point curve p
      | none => throw .invalid
  | .string length => if key.length = length then .ok .other else .error .invalid
  | .discrete => (structureOf Der.natural key).map fun _ => .other
  | .unknown name => .error (.algorithm name)

/-- A public key with the name of its algorithm, in its parts. -/
def parts : Der (KeyKind × Bytes) := do
  let kind ← keyKind
  let key ← Der.bits
  return (kind, key)

/-- A public key by its parts. -/
def ofParts (d : Der (KeyKind × Bytes)) (bytes : Bytes) : Except EncodingError EncodedKey := do
  let (kind, key) ← structureOf d bytes
  ofKind kind key

/-- A public key with the name of its algorithm. -/
def ofNamed (bytes : Bytes) : Except EncodingError EncodedKey := ofParts (Der.sequence parts) bytes

/-- A public key; without the name of an algorithm it is an RSA key. -/
def ofEncoding (bytes : Bytes) : Except EncodingError EncodedKey :=
  match ofNamed bytes with
  | .ok key => .ok key
  | .error e => (ofNumbers bytes).mapError fun _ => e

end PublicKey

/-! ## Private keys -/

namespace PrivateKey

/-- The numbers of an RSA key with its private half. -/
def numbers : Der (Option RsaPair) :=
  Der.sequence do
    let version ← Der.small
    let n ← Der.natural
    let e ← Der.natural
    let d ← Der.natural
    let p ← Der.natural
    let q ← Der.natural
    let dp ← Der.natural
    let dq ← Der.natural
    let qi ← Der.natural
    let others ← Der.optionalOf .sequence
    return if version = 0 && others.isNone then some ⟨⟨n, e⟩, d, p, q, dp, dq, qi⟩ else none

/-- An RSA key with its private half, by its numbers alone. -/
def ofNumbers (bytes : Bytes) : Except EncodingError EncodedKey := do
  match ← structureOf numbers bytes with
  | none => throw .invalid
  | some pair => if pair.isConsistent then return .rsa pair.key else throw .invalidPrivate

/-- The parts of a private key on a curve: its version, the number, the curve and the public key. -/
def curveParts : Der (Nat × Bytes × Option CurveName × Option Bytes) :=
  Der.sequence do
    let version ← Der.small
    let number ← Der.elementOf .octetString
    let name ← match ← Der.optionalOf (.numbered 0) with
      | some content => (curveName.whole content).map some
      | none => pure none
    let key ← match ← Der.optionalOf (.numbered 1) with
      | some content => (Der.bits.whole content).map some
      | none => pure none
    return (version, number, name, key)

/-- Whether a number is the private key of a point, if one is given. -/
def belongs (c : Curve) (number : Nat) (key : Option Bytes) : Bool :=
  let product := c.affine? (c.multiply number (Curve.project c.base))
  match key with
  | none => product.isSome
  | some bytes => product.isSome && product == PublicKey.point? c bytes

/-- A private key on a curve, which may be named outside of it. -/
def ofCurve (outer : Option CurveName) (bytes : Bytes) : Except EncodingError EncodedKey := do
  let (version, number, inner, key) ← structureOf curveParts bytes
  if version ≠ 1 then throw .invalid
  let name ← match outer, inner with
    | some a, some b => if a = b then pure a else throw .invalid
    | some a, none => pure a
    | none, some b => pure b
    | none, none => throw .invalid
  match ← name.curve? with
  | none => return .other
  | some c => if belongs c (beNat number) key then return .other else throw .invalid

/-- A private key of a kind. -/
def ofKind (kind : KeyKind) (key : Bytes) : Except EncodingError EncodedKey :=
  match kind with
  | .rsa => ofNumbers key
  | .curve name => ofCurve (some name) key
  | .string length => do
    let string ← structureOf (Der.elementOf .octetString) key
    if string.length = length then return .other else throw .invalid
  | .discrete => (structureOf Der.natural key).map fun _ => .other
  | .unknown name => .error (.algorithm name)

/-- A private key with the name of its algorithm, in its parts. -/
def parts : Der (Nat × KeyKind × Bytes) := do
  let version ← Der.small
  let kind ← keyKind
  let key ← Der.elementOf .octetString
  let _ ← Der.optionalOf (.numbered 0)
  return (version, kind, key)

/-- A private key with the name of its algorithm. -/
def ofNamed (bytes : Bytes) : Except EncodingError EncodedKey := do
  let (version, kind, key) ← structureOf (Der.sequence parts) bytes
  if version ≠ 0 then throw .invalid
  ofKind kind key

/-- A private key that is a number in a group, with the numbers that describe the group. -/
def discrete : Der Unit :=
  Der.sequence do
    let _ ← (List.range 6).mapM fun _ => Der.natural

/-- An error of the form in which a key should be, unless it is of another one. -/
def orNamed (bytes : Bytes) : Except EncodingError EncodedKey → Except EncodingError EncodedKey
  | .ok key => .ok key
  | .error .invalidPrivate => .error .invalidPrivate
  | .error e =>
    match ofNamed bytes with
    | .error .invalidPrivate => .error .invalidPrivate
    | result => result.mapError fun _ => e

/-- An encrypted key in its parts. -/
def sealed : Der Unit :=
  Der.sequence do
    let _ ← Der.elementOf .sequence
    let _ ← Der.elementOf .octetString

end PrivateKey

/-! ## Certificates -/

/-- The version of a certificate and the public key in it. -/
def certificateParts : Der (Nat × Bytes) :=
  Der.sequence do
    let parts ← Der.sequence do
      let version ← match ← Der.optionalOf (.numbered 0) with
        | some content => Der.small.whole content
        | none => pure 0
      let _ ← Der.elementOf .integer
      let _ ← Der.elementOf .sequence
      let _ ← Der.elementOf .sequence
      let _ ← Der.elementOf .sequence
      let _ ← Der.elementOf .sequence
      let key ← Der.elementOf .sequence
      set ([] : Bytes)
      return (version, key)
    let _ ← Der.elementOf .sequence
    let _ ← Der.bits
    return parts

end RelyingParty.Key
