import RelyingParty.Callback.Credentials
import RelyingParty.Http.Exchange
import RelyingParty.Token.Compact
import RelyingParty.Url.Stated

set_option autoImplicit false

/-! # Authentication responses

The provider answers an authentication request by sending the browser back to the callback URL with
parameters. `AuthenticationResponse.parse` reads them: an `error` parameter makes it an error
response, anything else is a success response.

No parameter of the protocol may occur twice, and an empty one counts as absent. An ID token only
has to be a token, and an access token needs a type; neither is verified here. -/

namespace RelyingParty

/-! ## Parameters -/

/-- The parameters of the protocol, in the order in which they are looked at. -/
inductive ProtocolParameter where
  | code
  | state
  | issuer
  | idToken
  | accessToken
  | tokenType
  | expiresIn
  | scope
  | sessionState
  | error
  | errorDescription
  | errorUri
  deriving DecidableEq, Repr

namespace ProtocolParameter

/-- The name of a parameter. -/
def name : ProtocolParameter → String
  | .code => "code"
  | .state => "state"
  | .issuer => "iss"
  | .idToken => "id_token"
  | .accessToken => "access_token"
  | .tokenType => "token_type"
  | .expiresIn => "expires_in"
  | .scope => "scope"
  | .sessionState => "session_state"
  | .error => "error"
  | .errorDescription => "error_description"
  | .errorUri => "error_uri"

/-- All parameters. -/
def all : List ProtocolParameter :=
  [.code, .state, .issuer, .idToken, .accessToken, .tokenType, .expiresIn, .scope, .sessionState,
   .error, .errorDescription, .errorUri]

theorem mem_all (p : ProtocolParameter) : p ∈ all := by
  cases p <;> decide

/-- The values a request has for a parameter. -/
def values (p : ProtocolParameter) (parameters : Parameters) : List String :=
  (Entries.get? parameters p.name).getD []

/-- Whether a request has a parameter more than once. -/
def isRepeated (p : ProtocolParameter) (parameters : Parameters) : Bool :=
  1 < (p.values parameters).length

/-- The value of a parameter, if it is there and not empty. -/
def value? (p : ProtocolParameter) (parameters : Parameters) : Option String :=
  (p.values parameters).head?.filter (· != "")

end ProtocolParameter

/-! ## Responses -/

/-- An error the provider reports, in text; one that an application makes may hold any values. -/
structure ErrorObject where
  code : Value
  details : Value := .null
  uri : Value := .null
  deriving Repr

/-- The error by the names of its parameters. -/
def ErrorObject.fields (e : ErrorObject) : Entries String Value :=
  [("error", e.code), ("error_description", e.details), ("error_uri", e.uri)]

/-- A login that succeeded. -/
structure SuccessResponse where
  redirectUri : Value
  issuer : Option String
  state : Option String
  code : Option String
  idToken : Option String
  accessToken : Option AccessToken
  sessionState : Option String
  deriving Repr

/-- A login the provider refused. -/
structure ErrorResponse where
  redirectUri : Value
  error : ErrorObject
  state : Option String
  issuer : Option String
  deriving Repr

/-- What the provider answers. -/
inductive AuthenticationResponse where
  | success (response : SuccessResponse)
  | error (response : ErrorResponse)
  deriving Repr

/-- The kind of a response. -/
def AuthenticationResponse.kind : AuthenticationResponse → ResponseKind
  | .success _ => .success
  | .error _ => .error

/-! ## Errors -/

/-- Why a response is not read. -/
inductive ResponseError where
  /-- There is no callback URL. -/
  | noUrl
  /-- The callback URL does not come apart. -/
  | url (cause : UrlError)
  /-- The callback URL is not one of the web. -/
  | notWeb (address : Value)
  /-- A parameter occurs more than once. -/
  | repeated (parameter : ProtocolParameter)
  /-- The ID token is no token. -/
  | idToken (cause : ParseError)
  /-- The access token has no type. -/
  | noTokenType
  /-- The lifetime is no number. -/
  | lifetimeText (text : String)
  /-- The lifetime is negative. -/
  | negativeLifetime (seconds : Int)
  /-- The access token is not accepted. -/
  | accessToken (cause : AccessTokenError)
  deriving Repr

/-- The wording of an error. -/
def ResponseError.message : ResponseError → String
  | .noUrl => "Callback URL is not set"
  | .url cause => "Malformed callback URL: " ++ cause.message
  | .notWeb address => "Malformed callback URL: " ++ address.quoted
  | .repeated parameter => "Parameter '" ++ parameter.name ++ "' must not be repeated"
  | .idToken cause => "Invalid ID token: " ++ cause.message
  | .noTokenType => "Missing token_type for access_token"
  | .lifetimeText text => "Invalid expires_in: " ++ text
  | .negativeLifetime seconds => "Invalid expires_in: " ++ toString seconds
  | .accessToken cause => cause.message

namespace AuthenticationResponse

/-! ## Reading -/

/-- The callback URL must be one of the web. -/
def checkUrl (url : Value) : Except (Failure ResponseError) Unit := do
  if !url.truthy then throw (.refused .noUrl)
  unless ← (Url.isWebValue url).mapError (·.map .url) do throw (.refused (.notWeb url))

/-- No parameter of the protocol may be repeated. -/
def checkRepetition (parameters : Parameters) : Except ResponseError Unit :=
  match ProtocolParameter.all.find? (·.isRepeated parameters) with
  | some p => .error (.repeated p)
  | none => .ok ()

/-- The ID token, which has to be a token. -/
def idToken (parameters : Parameters) : Except (Failure ResponseError) (Option String) :=
  match ProtocolParameter.idToken.value? parameters with
  | none => .ok none
  | some token =>
    match ParsedToken.ofText token with
    | .ok _ => .ok (some token)
    | .error failure => .error (failure.map .idToken)

/-- The lifetime of the access token. -/
def lifetime (parameters : Parameters) : Except ResponseError (Option Int) :=
  match ProtocolParameter.expiresIn.value? parameters with
  | none => .ok none
  | some text =>
    match Integer.ofText? text with
    | none => .error (.lifetimeText text)
    | some seconds => if seconds < 0 then .error (.negativeLifetime seconds) else .ok (some seconds)

/-- The access token, which has to have a type. -/
def accessToken (parameters : Parameters) : Except ResponseError (Option AccessToken) :=
  match ProtocolParameter.accessToken.value? parameters with
  | none => .ok none
  | some value =>
    match ProtocolParameter.tokenType.value? parameters with
    | none => .error .noTokenType
    | some tokenType => do
      let expiresIn ← lifetime parameters
      let scope := Value.ofText? (ProtocolParameter.scope.value? parameters)
      match AccessToken.create (.text value) (.text tokenType)
          ((expiresIn.map Value.int).getD .null) scope with
      | .ok token => return some token
      | .error cause => throw (.accessToken cause)

/-- The response of a request to the callback URL. -/
def parse (redirectUri : Value) (parameters : Parameters) :
    Except (Failure ResponseError) AuthenticationResponse := do
  checkUrl redirectUri
  (checkRepetition parameters).mapError .refused
  let state := ProtocolParameter.state.value? parameters
  let issuer := ProtocolParameter.issuer.value? parameters
  match ProtocolParameter.error.value? parameters with
  | some code =>
    let error := {
      code := .text code
      details := Value.ofText? (ProtocolParameter.errorDescription.value? parameters)
      uri := Value.ofText? (ProtocolParameter.errorUri.value? parameters) }
    return .error { redirectUri, error, state, issuer }
  | none =>
    let idToken ← idToken parameters
    let accessToken ← (accessToken parameters).mapError .refused
    return .success {
      redirectUri, issuer, state, idToken, accessToken
      code := ProtocolParameter.code.value? parameters
      sessionState := ProtocolParameter.sessionState.value? parameters }

end AuthenticationResponse

end RelyingParty
