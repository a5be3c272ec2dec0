import RelyingParty.Fault
import RelyingParty.Text.Blank
import RelyingParty.Token.Base64

set_option autoImplicit false

/-! # Compact tokens

A signed token is three base64 segments with points between them: a header and a payload, both JSON
objects, and a signature over the text before the last point. An encrypted token has five segments,
of which only the header can be read without a key.

`Compact.ofText` takes a signed token apart without looking into its payload. `ParsedToken.ofValue`
reads a token of either kind without verifying anything.

A part that is nested too deep ends the reading with a fault, except for the header of a signed
token, of which it is only said that it cannot be read. So does broken text, which has no bytes, if
it has the points of an encrypted token. -/

namespace RelyingParty

/-! ## Segments -/

/-- The point between segments. -/
def segmentPoint : UInt8 := 46

/-- The bytes before the first point and those after it. -/
def splitFirstPoint? : Bytes → Option (Bytes × Bytes)
  | [] => none
  | b :: rest =>
    if b = segmentPoint then some ([], rest)
    else (splitFirstPoint? rest).map fun (before, after) => (b :: before, after)

/-- The bytes before the last point and those after it. -/
def splitLastPoint? (bytes : Bytes) : Option (Bytes × Bytes) :=
  (splitFirstPoint? bytes.reverse).map fun (after, before) => (before.reverse, after.reverse)

/-- The number of segments of a token. -/
def segmentCount (token : String) : Nat := token.toList.count '.' + 1

/-! ## Signed tokens -/

/-- The parts of a signed token. -/
structure Compact where
  header : List (Value × Value)
  payload : Bytes
  /-- The text that is signed. -/
  signingInput : Bytes
  signature : Bytes

/-- Why a part of a token is not an object. -/
inductive ObjectError where
  /-- It is not JSON. -/
  | text
  /-- It is another value than an object. -/
  | kind
  /-- It is nested too deep. -/
  | tooDeep
  deriving DecidableEq, Repr

/-- What is wrong with a part. -/
def ObjectError.detail : ObjectError → String
  | .text => "not JSON"
  | .kind => "must be a json object"
  | .tooDeep => "nested too deep"

/-- The fault in a part; what is merely not an object is a verdict about the token. -/
def ObjectError.fault? : ObjectError → Option Fault
  | .tooDeep => some .tooDeep
  | _ => none

/-- The members of a part that should be an object. -/
def membersOf : Except Json.ReadError Value → Except ObjectError (List (Value × Value))
  | .ok (.dict members) => .ok members
  | .ok _ => .error .kind
  | .error .tooDeep => .error .tooDeep
  | .error _ => .error .text

/-- Why a token does not come apart. -/
inductive CompactError where
  /-- A point is missing, or the header is not base64. -/
  | segments
  /-- The header is not an object. -/
  | header (cause : ObjectError)
  /-- The payload is not base64. -/
  | payload
  /-- The signature is not base64. -/
  | signature
  deriving DecidableEq, Repr

/-- The wording of an error. -/
def CompactError.message : CompactError → String
  | .segments => "Not enough segments"
  | .header cause => "Invalid header string: " ++ cause.detail
  | .payload => "Invalid payload padding"
  | .signature => "Invalid crypto padding"

/-- The fault in a token, if it is one that does not come apart. -/
def CompactError.fault? : CompactError → Option Fault
  | .header cause => cause.fault?
  | _ => none

namespace Compact

/-- Take the bytes of a signed token apart. -/
def ofBytes (bytes : Bytes) : Except CompactError Compact := do
  let some (signingInput, signature) := splitLastPoint? bytes | throw .segments
  let some (header, payload) := splitFirstPoint? signingInput | throw .segments
  let some headerBytes := Base64.decode? header | throw .segments
  let headerEntries ← (membersOf (Json.readBytes .utf8 headerBytes)).mapError .header
  let some payloadBytes := Base64.decode? payload | throw .payload
  let some signatureBytes := Base64.decode? signature | throw .signature
  return ⟨headerEntries, payloadBytes, signingInput, signatureBytes⟩

/-- Take a signed token apart. -/
def ofText (token : String) : Except CompactError Compact := ofBytes (Text.utf8 token)

end Compact

/-- The claims a payload holds. -/
def claimsOfPayload (payload : Bytes) : Except ObjectError (List (Value × Value)) :=
  membersOf (Json.readBytes .utf8 payload)

/-! ## Encrypted tokens -/

/-- The segments of an encrypted token after its header. -/
inductive SealedPart where
  | key
  | initialVector
  | cipherText
  | tag
  deriving DecidableEq, Repr

/-- Why an encrypted token does not come apart. -/
inductive SealedError where
  /-- The header is not base64. -/
  | segments
  /-- The header is not an object. -/
  | header (cause : ObjectError)
  /-- A later segment is not base64. -/
  | part (p : SealedPart)
  deriving DecidableEq, Repr

/-- The wording of an error. -/
def SealedError.message : SealedError → String
  | .segments => "Not enough segments"
  | .header cause => "Invalid header string: " ++ cause.detail
  | .part .key => "Invalid encrypted key"
  | .part .initialVector => "Invalid IV"
  | .part .cipherText => "Invalid cyphertext"
  | .part .tag => "Invalid auth tag"

/-- The fault in an encrypted token. -/
def SealedError.fault? : SealedError → Option Fault
  | .header cause => cause.fault?
  | _ => none

/-- The bytes between points. -/
def segments : Bytes → List Bytes
  | [] => [[]]
  | b :: rest =>
    if b = segmentPoint then [] :: segments rest
    else
      match segments rest with
      | [] => [[b]]
      | s :: ss => (b :: s) :: ss

/-- A segment that has to be base64. -/
def checkPart (p : SealedPart) (segment : Bytes) : Except SealedError Unit :=
  if (Base64.decode? segment).isSome then .ok () else .error (.part p)

/-- The header of an encrypted token, the other segments of which have to be base64. -/
def sealedHeader (token : String) : Except SealedError (List (Value × Value)) :=
  match segments (Text.utf8 token) with
  | [header, key, initialVector, cipherText, tag] => do
    let some headerBytes := Base64.decode? header | throw .segments
    let headerEntries ← (membersOf (Json.readDetected headerBytes)).mapError .header
    checkPart .key key
    checkPart .initialVector initialVector
    checkPart .cipherText cipherText
    checkPart .tag tag
    return headerEntries
  | _ => .error .segments

/-! ## Tokens of either kind -/

/-- A token that has been read and not verified. -/
structure ParsedToken where
  text : String
  header : List (Value × Value)
  /-- The claims; none of an encrypted token, whose payload cannot be read. -/
  claims : List (Value × Value)
  encrypted : Bool

/-- Why a token is not read. -/
inductive ParseError where
  /-- There is no token: not a text, or a blank one. -/
  | empty
  /-- The number of segments is that of neither kind of token. -/
  | segments (count : Nat)
  /-- A signed token whose header, payload or signature is not what it should be. -/
  | headers
  /-- The payload of a signed token is not an object. -/
  | claims (cause : ObjectError)
  /-- An encrypted token does not come apart. -/
  | encrypted (cause : SealedError)
  deriving DecidableEq, Repr

/-- The wording of an error. -/
def ParseError.message : ParseError → String
  | .empty => "Token is empty"
  | .segments count => "Invalid JWT serialization: " ++ toString count ++ " segments"
  | .headers => "Malformed JWT: Error decoding token headers."
  | .claims cause => "Malformed JWT: Invalid claims string: " ++ cause.detail
  | .encrypted cause => "Malformed JWT: " ++ cause.message

/-- What an error of a token comes to, with the fault behind it if there is one. -/
def ParseError.failure (e : ParseError) : Option Fault → Failure ParseError
  | some fault => .fault fault
  | none => .refused e

namespace ParsedToken

/-- Read a signed token. -/
def ofSigned (token : String) : Except (Failure ParseError) ParsedToken :=
  match Compact.ofText token with
  | .error _ => .error (.refused .headers)
  | .ok compact =>
    match claimsOfPayload compact.payload with
    | .error cause => .error ((ParseError.claims cause).failure cause.fault?)
    | .ok claims => .ok ⟨token, compact.header, claims, false⟩

/-- Read an encrypted token. -/
def ofEncrypted (token : String) : Except (Failure ParseError) ParsedToken :=
  match sealedHeader token with
  | .error cause => .error ((ParseError.encrypted cause).failure cause.fault?)
  | .ok header => .ok ⟨token, header, [], true⟩

/-- Read a token; the number of its segments tells its kind. -/
def ofText (token : String) : Except (Failure ParseError) ParsedToken :=
  if Text.isBlankText token then .error (.refused .empty)
  else if segmentCount token = 5 then ofEncrypted token
  else if segmentCount token = 3 then ofSigned token
  else .error (.refused (.segments (segmentCount token)))

/-- Read broken text, of which only the points between its segments can be told. -/
def ofBroken (points : List Nat) : Except (Failure ParseError) ParsedToken :=
  let count := points.count segmentPoint.toNat + 1
  if count = 5 then .error (.fault .notEncodable)
  else if count = 3 then .error (.refused .headers)
  else .error (.refused (.segments count))

/-- Read a token that may be any value. -/
def ofValue : Value → Except (Failure ParseError) ParsedToken
  | .text token => ofText token
  | .brokenText points => ofBroken points
  | _ => .error (.refused .empty)

end ParsedToken

end RelyingParty
