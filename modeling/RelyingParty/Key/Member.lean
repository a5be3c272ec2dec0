import RelyingParty.Digest.Sha2
import RelyingParty.Key.Error
import RelyingParty.Token.Base64

set_option autoImplicit false

/-! # The members of a key

A key may be an object: its kind, and numbers in base64, most significant byte first. A number may
also be a list of the bytes of its base64. A value of another type has no bytes, or a count of zero
bytes, which are no digits. -/

namespace RelyingParty.Key

/-- The members of a key. -/
abbrev Members := List (Value × Value)

/-- The kind a key states must be the one that is needed. -/
def checkKind (expected : String) (fields : Members) : Except KeyFailure Unit :=
  let received := Value.fieldD fields "kty"
  if received.same (.text expected) then .ok () else .error (.refused (.kind expected received))

/-! ## Numbers -/

/-- One byte. -/
def byteOf (v : Value) : Except KeyFailure UInt8 :=
  match v with
  | .int n =>
    if 0 ≤ n && n < 256 then .ok (UInt8.ofNat n.toNat)
    else badNumber "bytes must be in range(0, 256)"
  | .bool b => .ok (if b then 1 else 0)
  | _ => .error (.fault .wrongType)

/-- The least and the largest count that is considered at all. -/
def countRange : Int × Int := (-0x8000000000000000, 0x7FFFFFFFFFFFFFFF - 33)

/-- There is no room for more bytes. -/
def maxBytes : Int := 0x1000000000

/-- The digits in so many zero bytes: none. -/
def zeroBytes (count : Int) : Except KeyFailure Bytes :=
  if count < countRange.1 || countRange.2 < count then .error (.fault .outOfRange)
  else if count < 0 then badNumber "negative count"
  else if maxBytes < count then .error (.fault .tooLarge)
  else .ok []

/-- The base64 that a value holds. -/
def fieldBytes (v : Value) : Except KeyFailure Bytes :=
  match v with
  | .text s => (Text.bytesBelow? 0x80 s).elim (.error (.fault .notEncodable)) .ok
  | .brokenText _ => .error (.fault .notEncodable)
  | .list xs => xs.mapM byteOf
  | .dict [] => .ok []
  | .int n => zeroBytes n
  | .bool _ => .ok []
  | _ => .error (.fault .wrongType)

/-- A number. -/
def number (v : Value) : Except KeyFailure Nat := do
  let field ← fieldBytes v
  let some bytes := Base64.decodeField? field | throw (.fault .notBase64)
  if bytes.isEmpty then badNumber "invalid literal for int() with base 16: ''"
  else return Digest.beNat bytes

/-- The number under a name. -/
def numberOf (fields : Members) (name : String) : Except KeyFailure Nat :=
  number (Value.fieldD fields name)

end RelyingParty.Key
