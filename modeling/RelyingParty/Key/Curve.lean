import RelyingParty.Key.Member

set_option autoImplicit false

/-! # Keys on a curve

A key on a curve is a key object of the kind `EC` with the curve and the two coordinates of a point,
or armored text. A private key, which an object shows by its number, is read and verifies nothing.
-/

namespace RelyingParty.Key

open Digest

/-- The curves of key objects. -/
def curveNames : List (String × Curve) :=
  [("P-256", .p256), ("P-384", .p384), ("P-521", .p521)]

/-- The curve of a name. -/
def curveNamed : Value → Except KeyFailure Curve
  | .text name => (Entries.get? curveNames name).elim (.error (.fault .missingKey)) .ok
  | v => .error (.fault (if v.hashable then .missingKey else .wrongType))

/-- The point of two coordinates, which are taken modulo the size of the field. -/
def pointOf (c : Curve) (x y : Nat) : Except KeyFailure Point :=
  let p : Point := ⟨x % c.field, y % c.field⟩
  if c.contains p then .ok p
  else badNumber "Invalid EC key. Point is not on the curve specified."

/-- The number of a private key has to make the point. -/
def checkOwner (c : Curve) (number : Nat) (p : Point) : Except KeyFailure Unit :=
  if c.affine? (c.multiply number (Curve.project c.base)) = some p then .ok ()
  else badNumber "Invalid EC key."

/-- The key of a key object. -/
def curveOfMembers (fields : Members) : Except KeyFailure EncodedKey := do
  checkKind "EC" fields
  if ["x", "y", "crv"].any fun name => (Value.field? fields name).isNone then
    throw (.refused .noPoint)
  let x ← numberOf fields "x"
  let y ← numberOf fields "y"
  let c ← curveNamed (Value.fieldD fields "crv")
  match Value.field? fields "d" with
  | none => return .point c (← pointOf c x y)
  | some d =>
    let number ← number d
    let p ← pointOf c x y
    checkOwner c number p
    return .other

/-- The key for signatures on a curve that a value is. -/
def curveKey : Value → Except KeyFailure EncodedKey
  | .dict fields => curveOfMembers fields
  | .text s => (ArmoredKey.ofText s).mapError fun cause => .refused (.armored cause)
  | .brokenText _ => .error (.fault .notEncodable)
  | v => .error (.refused (.curve v))

end RelyingParty.Key
