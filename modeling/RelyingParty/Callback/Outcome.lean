import RelyingParty.Callback.Response

set_option autoImplicit false

/-! # What becomes of a callback

A request to the callback URL ends in one of four ways: it yields credentials, it tells that the
provider refused the login, it asks for an immediate response and nothing else, or it cannot be
trusted. -/

namespace RelyingParty

/-! ## Immediate responses -/

/-- A response that is sent as it is. -/
structure ImmediateResponse where
  status : Nat
  body : String := ""
  headers : Entries String String := []
  deriving DecidableEq, Repr

namespace ImmediateResponse

/-- The headers that keep a response out of all caches. -/
def noCacheHeaders : Entries String String :=
  [("Cache-Control", "no-cache, no-store"), ("Pragma", "no-cache")]

/-- A request that was carried out. -/
def ok : ImmediateResponse := { status := 200, headers := noCacheHeaders }

/-- A request that is refused. -/
def badRequest : ImmediateResponse := { status := 400 }

/-- Set the headers of the response on an exchange. -/
def applyHeaders (r : ImmediateResponse) (e : Exchange) : Exchange :=
  r.headers.foldl (fun e header => e.setHeader header.1 header.2) e

end ImmediateResponse

/-! ## Results -/

/-- How a callback ends. -/
inductive ExtractionResult where
  /-- The login succeeded. -/
  | credentials (credentials : Credentials)
  /-- The provider refused the login. -/
  | noCredentials (error : ErrorObject)
  /-- The response to be sent. -/
  | respond (response : ImmediateResponse)
  /-- The request cannot be trusted. -/
  | fatal (reason : String)
  deriving Repr

namespace ExtractionResult

/-- The name of a result. -/
def outcome : ExtractionResult → Outcome
  | .credentials _ => .credentials
  | .noCredentials _ => .noCredentials
  | .respond _ => .respond
  | .fatal _ => .fatal

/-- Whether the result holds credentials. -/
def hasCredentials (r : ExtractionResult) : Bool := r.outcome == .credentials

end ExtractionResult

end RelyingParty
