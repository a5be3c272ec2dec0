import RelyingParty.Log
import RelyingParty.Token.Validator

set_option autoImplicit false

/-! # Verifiers

Whoever receives a token hands it to a verifier. The usual one is a validator with the provider's
keys; another one gives the same answer to every token, and counts how often it was asked.

A verdict of the keys against a token is logged. -/

namespace RelyingParty.Token

/-- What verifies tokens. -/
inductive Verifier where
  /-- One answer for all tokens, and the number of times it was given. -/
  | fixed (answer : Except String Value) (calls : Nat)
  /-- The keys of the provider. -/
  | keys (validator : KeyValidator)
  deriving Repr

/-- What happens around a verification: how a key checks a signature, and what time it is. -/
structure Surroundings where
  check : Key.Check
  now : Int

/-- The notice about a verdict. -/
def noticesOf : TokenFailure → Notices
  | .refused reason => [.warning ("Token rejected: " ++ reason.detail)]
  | .fault _ => []

/-- A verification: the claims or what ended it, and what it leaves behind. -/
structure Verification where
  result : Except TokenFailure Value
  verifier : Verifier
  remote : Remote
  notices : Notices

/-- Verify a token that may have to answer a nonce. -/
def Verifier.verify (v : Verifier) (around : Surroundings) (remote : Remote)
    (token nonce : Value) : Verification :=
  match v with
  | .fixed answer calls =>
    let result := match answer with
      | .ok claims => .ok claims
      | .error message => .error (.refused (.other message))
    ⟨result, .fixed answer (calls + 1), remote, []⟩
  | .keys validator =>
    match validator.validate around.check around.now remote token nonce with
    | (.ok claims, validator, remote) => ⟨.ok (.dict claims), .keys validator, remote, []⟩
    | (.error failure, validator, remote) =>
      ⟨.error failure, .keys validator, remote, noticesOf failure⟩

end RelyingParty.Token
