import RelyingParty.Fault
import RelyingParty.Key.Armored
import RelyingParty.Value.Display

set_option autoImplicit false

/-! # Keys that cannot be used

A key may be of another kind than an algorithm needs, or lack what a key of its kind has. Such a key
is refused with a message; values that are no numbers where there should be some are faults. -/

namespace RelyingParty.Key

/-- Why a key cannot be used. -/
inductive KeyError where
  /-- The algorithm is not known. -/
  | algorithm
  /-- The key is of another kind than the algorithm needs. -/
  | kind (expected : String) (received : Value)
  /-- A shared secret is neither a key nor text. -/
  | secret
  /-- A public key is offered as a shared secret. -/
  | publicSecret
  /-- A value is not an RSA key. -/
  | rsa (value : Value)
  /-- Some of the parameters of a private key are missing. -/
  | incomplete
  /-- A value is not a key on a curve. -/
  | curve (value : Value)
  /-- A key on a curve lacks its point or its curve. -/
  | noPoint
  /-- A symmetric key is not of the size the algorithm needs. -/
  | size (bits : Nat) (algorithm : String)
  /-- A text holds no key. -/
  | armored (cause : ArmoredError)
  deriving Repr

/-- The wording of an error. -/
def KeyError.message : KeyError → String
  | .algorithm => "Unable to find an algorithm for key"
  | .kind expected received =>
    "Incorrect key type. Expected: '" ++ expected ++ "', Received: " ++ received.display
  | .secret => "Expecting a string- or bytes-formatted key."
  | .publicSecret =>
    "The specified key is an asymmetric key or x509 certificate and"
      ++ " should not be used as an HMAC secret."
  | .rsa value => "Unable to parse an RSA_JWK from key: " ++ value.display
  | .incomplete => "Precomputed private key parameters are incomplete."
  | .curve value => "Unable to parse an ECKey from key: " ++ value.display
  | .noPoint => "Mandatory parameters are missing"
  | .size bits name =>
    "Key must be " ++ toString bits ++ " bit for alg " ++ name
  | .armored cause => cause.message

/-- What ends the use of a key. -/
abbrev KeyFailure := Failure KeyError

/-- A failure with a message of its own that is no verdict about the key. -/
def badNumber {α : Type} (message : String) : Except KeyFailure α :=
  .error (.fault (.badValue message))

end RelyingParty.Key
