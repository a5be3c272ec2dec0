import RelyingParty.Http.Remote

set_option autoImplicit false

/-! # Faults

A value that came from outside may be of any type, and the provider may answer with anything. Where
an operation meets a value it does not work on, or a document it cannot obtain, it stops with a
fault. Faults are not verdicts about a request: those have types of their own, with messages for the
one who asked. `Failure` is what ends an operation that may come to either. -/

namespace RelyingParty

/-- Why an operation could not be carried out. -/
inductive Fault where
  /-- A value is of a type the operation does not work on. -/
  | wrongType
  /-- A value does not have the operation. -/
  | missingOperation
  /-- A number has no integer near it. -/
  | outOfRange
  /-- There is no room for a value. -/
  | tooLarge
  /-- A value of the right type is not acceptable. -/
  | badValue (message : String)
  /-- Text that should be base64 is not. -/
  | notBase64
  /-- Text has characters its encoding does not have. -/
  | notEncodable
  /-- Bytes are no text in their encoding. -/
  | notDecodable
  /-- A table has no entry under a key. -/
  | missingKey
  /-- A document is nested too deep. -/
  | tooDeep
  /-- The parts of a body do not come apart. -/
  | malformedBody
  /-- A value is of a type a shared store does not take. -/
  | unstorable
  /-- A shared store refuses a command. -/
  | refused
  /-- A document was not obtained. -/
  | fetch (cause : FetchError)
  deriving DecidableEq, Repr

/-- What ends an operation early: a refusal for a reason of its own kind, or a fault. -/
inductive Failure (ε : Type) where
  | refused (reason : ε)
  | fault (cause : Fault)
  deriving DecidableEq, Repr

/-- A refusal for a reason of another kind; a fault stays as it is. -/
def Failure.map {ε ε' : Type} (f : ε → ε') : Failure ε → Failure ε'
  | .refused reason => .refused (f reason)
  | .fault cause => .fault cause

/-- The wording for a number with too many digits. -/
def tooManyDigitsMessage (digits : Nat) : String :=
  "Exceeds the limit (4300 digits) for integer string conversion: value has "
    ++ toString digits
    ++ " digits; use sys.set_int_max_str_digits() to increase the limit"

end RelyingParty
