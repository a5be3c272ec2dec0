import RelyingParty.Key.Algorithm
import RelyingParty.Key.Curve
import RelyingParty.Key.Rsa
import RelyingParty.Key.Secret

set_option autoImplicit false

/-! # Checking a signature with a key

`verify` checks a signature with one key under a named algorithm: a shared secret for the keyed
digests, the public half of an RSA key for the RSA signatures, a point for the signatures on a
curve. A key that is not of the kind the algorithm needs is an error of its own; the algorithm named
in the key and its intended use do not matter. Where a key is read and is of another kind than it
should be, the signature does not verify. -/

namespace RelyingParty.Key

open Digest

/-- A check of a signature: under an algorithm, with a key, of a text. -/
abbrev Check := Value → Value → Bytes → Bytes → Except KeyFailure Bool

/-! ## Symmetric keys -/

/-- The number of units a symmetric key is counted in: characters, or members. -/
def keyLength : Value → Except KeyFailure Nat
  | .text s => .ok s.length
  | .brokenText points => .ok points.length
  | .list xs => .ok xs.length
  | .dict entries => .ok entries.length
  | _ => .error (.fault .wrongType)

/-- A symmetric key has to be text. -/
def checkText : Value → Except KeyFailure Unit
  | .text _ => .ok ()
  | .brokenText _ => .error (.fault .notEncodable)
  | _ => .error (.fault .wrongType)

/-- A symmetric key has to have the size that its algorithm needs. -/
def checkSymmetric (name : Value) (bits : Nat) (key : Value) : Except KeyFailure Unit := do
  if 8 * (← keyLength key) ≠ bits then throw (.refused (.size bits name.display))
  checkText key

/-! ## Signatures -/

/-- Whether a key opens an RSA signature. -/
def EncodedKey.opens (hash : Hash) (text signature : Bytes) : EncodedKey → Bool
  | .rsa key => rsaVerify hash key text signature
  | _ => false

/-- Whether a signature belongs to a point. -/
def EncodedKey.accepts (hash : Hash) (text signature : Bytes) : EncodedKey → Bool
  | .point c p => c.verify hash p text signature
  | _ => false

/-- Check a signature with a key under a named algorithm. -/
def verify : Check := fun name key text signature => do
  match ← Algorithm.named name with
  | .keyedDigest hash => return hmac hash (← secret key) text == signature
  | .rsa hash => return (← rsaKey key).opens hash text signature
  | .rsaTransport => (rsaKey key).map fun _ => false
  | .curve hash => return (← curveKey key).accepts hash text signature
  | .agreement => (curveKey key).map fun _ => false
  | .symmetric bits => (checkSymmetric name bits key).map fun _ => false
  | .direct => (checkText key).map fun _ => false

end RelyingParty.Key
