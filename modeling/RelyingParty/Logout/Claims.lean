import RelyingParty.Text.Blank
import RelyingParty.Token.Validator

set_option autoImplicit false

/-! # The claims of a logout token

A logout token must not be an ID token in disguise: it carries no nonce, not even an empty one, it
names the event of a back-channel logout, and it says which session of the provider has ended.
`sessionOfClaims` is that session. -/

namespace RelyingParty.Logout

/-- The event of a back-channel logout. -/
def event : String := "http://schemas.openid.net/event/backchannel-logout"

/-- Why a logout request is refused. -/
inductive LogoutError where
  /-- The token is no token. -/
  | token (cause : ParseError)
  /-- The token is encrypted. -/
  | encrypted
  /-- The token is not valid. -/
  | rejected (reason : Token.Rejection)
  /-- The session named by an unverified token is no text. -/
  | unverifiedSession
  /-- The token carries a nonce. -/
  | nonce
  /-- The token does not name the event. -/
  | events
  /-- The token names no session. -/
  | session
  deriving Repr

/-- The wording of an error. -/
def LogoutError.message : LogoutError → String
  | .token cause => "Cannot parse JWT logout token: " ++ cause.message
  | .encrypted => "Encrypted JWTs are not accepted for logout requests"
  | .rejected reason => "Cannot validate JWT logout token: " ++ reason.message
  | .unverifiedSession => "The sid claim must be a string"
  | .nonce => "The nonce claim should not exist for logout requests"
  | .events =>
    "The events claim should contain the '" ++ event ++ "' member name for logout requests"
  | .session => "The sid claim is mandatory for logout requests"

/-- What ends a logout request: it is refused, or there is a fault. -/
abbrev LogoutFailure := Failure LogoutError

/-- Whether a text occurs in a value: as a key, as an element, or within a text. -/
def hasMember (name : String) : Value → Except Fault Bool
  | .dict entries => .ok (Value.field? entries name).isSome
  | .list xs | .tuple xs | .set xs | .frozenSet xs => .ok (xs.any (Value.same (.text name)))
  | .text s => .ok (Key.occursIn name.toList s.toList)
  | .brokenText points => .ok (Key.occursIn name.toList (Text.ofPointsLenient points).toList)
  | _ => .error .wrongType

/-- Whether a value is a mapping that names the event. -/
def namesEvent : Value → Bool
  | .dict entries => (Value.field? entries event).isSome
  | _ => false

/-- The session named by the claims of a logout token that has been verified. -/
def sessionOfMembers (claims : List (Value × Value)) : Except LogoutError Value :=
  if !namesEvent (Value.fieldD claims "events") then .error .events
  else
    match Value.fieldD claims "sid" with
    | .text sid => if Text.isBlankText sid then .error .session else .ok (.text sid)
    | .brokenText points => .ok (.brokenText points)
    | _ => .error .session

/-- The session named by the claims, which a verifier may have given as any value. -/
def sessionOfClaims (claims : Value) : Except LogoutFailure Value :=
  match hasMember "nonce" claims with
  | .error cause => .error (.fault cause)
  | .ok true => .error (.refused .nonce)
  | .ok false =>
    match claims with
    | .dict members => (sessionOfMembers members).mapError .refused
    | _ => .error (.fault .missingOperation)

/-- The session named by claims nobody verified; it may be left out, and is null then. -/
def unverifiedSession (claims : List (Value × Value)) : Except LogoutError Value :=
  let sid := Value.fieldD claims "sid"
  if sid.isNull || sid.isText then .ok sid else .error .unverifiedSession

end RelyingParty.Logout
