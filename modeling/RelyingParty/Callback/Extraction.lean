import RelyingParty.Logout.Request
import RelyingParty.Value.Display

set_option autoImplicit false

/-! # Handling a callback

A request to the callback URL is a logout request if it carries the marker of one; `extract` hands
it on. Any other request is the answer to an authentication request, and `judge` decides about it:
the response must be readable, come from the right issuer if the provider names issuers, return the
state that the session holds if states are checked, and carry something.

Judging reads the session and changes nothing. -/

namespace RelyingParty.Callback

/-! ## Judging a response -/

/-- Why a response cannot be trusted. -/
inductive CallbackError where
  /-- The client's name cannot be added to the callback URL. -/
  | url (cause : UrlError)
  /-- The response is not read. -/
  | response (cause : ResponseError)
  /-- The response comes from another issuer, or from an unnamed one. -/
  | issuer
  /-- The session holds no state. -/
  | noExpectedState
  /-- The response has no state. -/
  | noState
  /-- The response has another state. -/
  | otherState
  /-- The response carries nothing. -/
  | empty
  deriving Repr

/-- The wording of an error. -/
def CallbackError.message : CallbackError → String
  | .url cause => "Malformed callback URL: " ++ cause.message
  | .response cause => cause.message
  | .issuer => "Issuer mismatch, possible mix-up attack."
  | .noExpectedState => "State cannot be determined"
  | .noState => "Missing state parameter"
  | .otherState => "State parameter is different from the one sent in authentication request."
  | .empty => "Cannot accept empty OIDC credentials"

/-- What a response that can be trusted says. -/
inductive Login where
  | succeeded (credentials : Credentials)
  | refused (error : ErrorObject)
  deriving Repr

/-- A provider that names itself in responses must be the right one. -/
def checkIssuer (metadata : ProviderMetadata) (response : SuccessResponse) :
    Except CallbackError Unit :=
  if metadata.issuerInResponses && response.issuer != some metadata.issuer then .error .issuer
  else .ok ()

/-- The state must be the one the session holds. -/
def checkState (expected : Option Value) (response : SuccessResponse) : Except CallbackError Unit :=
  match expected.filter (!·.isNull) with
  | none => .error .noExpectedState
  | some value =>
    match response.state with
    | none => .error .noState
    | some state => if value.display = state then .ok () else .error .otherState

/-- The credentials a response carries. -/
def credentialsOf (response : SuccessResponse) : Except CallbackError Credentials :=
  match Credentials.create? (Value.ofText? response.code) (Value.ofText? response.idToken)
      response.accessToken with
  | some credentials => .ok credentials
  | none => .error .empty

/-- The response of a request to the callback URL. -/
def responseOf (client : Client) (parameters : Parameters) :
    Except (Failure CallbackError) AuthenticationResponse := do
  let url ← client.callbackUrl.mapError (·.map .url)
  (AuthenticationResponse.parse url parameters).mapError (·.map .response)

/-- The judgement about a success response. -/
def judgeSuccess (client : Client) (store : SessionStore) (e : Exchange)
    (response : SuccessResponse) : Except CallbackError Login := do
  checkIssuer client.metadata response
  if client.settings.withState then
    checkState (store.get? e client.stateAttribute) response
  return .succeeded (← credentialsOf response)

/-- The judgement about a login. -/
def judge (client : Client) (store : SessionStore) (e : Exchange) :
    Except (Failure CallbackError) Login := do
  match ← responseOf client e.parameters with
  | .error response => return .refused response.error
  | .success response => (judgeSuccess client store e response).mapError .refused

/-! ## Results -/

/-- The result of a judgement. -/
def resultOf : Except (Failure CallbackError) Login → Except Fault ExtractionResult
  | .ok (.succeeded credentials) => .ok (.credentials credentials)
  | .ok (.refused error) => .ok (.noCredentials error)
  | .error (.refused error) => .ok (.fatal error.message)
  | .error (.fault cause) => .error cause

/-- An error of the provider, as a value. -/
def errorValue (e : ErrorObject) : Value :=
  .dict (e.fields.map fun (name, v) => (.text name, v))

/-- The notices about a judgement. -/
def noticesOf : Except (Failure CallbackError) Login → Notices
  | .ok (.succeeded _) | .error (.fault _) => []
  | .ok (.refused error) =>
    [.error ("Bad authentication response, error=" ++ (errorValue error).quoted)]
  | .error (.refused error) => [.error ("Callback rejected: " ++ error.message)]

/-- How a callback was handled. -/
structure Extraction where
  result : Except Fault ExtractionResult
  site : Site
  notices : Notices

/-- Handle a request to the callback URL. -/
def extract (client : Client) (around : Token.Surroundings) (site : Site) (e : Exchange) :
    Extraction :=
  match e.parameterNamed? client.settings.logoutEndpointParameter with
  | .error cause => ⟨.error cause, site, []⟩
  | .ok (some _) =>
    let reply := Logout.answer client around site e
    ⟨reply.response.map .respond, reply.site, reply.notices⟩
  | .ok none =>
    let judgement := judge client site.sessions.store e
    ⟨resultOf judgement, site, noticesOf judgement⟩

/-! ## What handling keeps -/

variable {client : Client} {around : Token.Surroundings} {site : Site} {e : Exchange}

/-- A login is judged, and nothing else happens. -/
theorem extract_of_login
    (h : e.parameterNamed? client.settings.logoutEndpointParameter = .ok none) :
    extract client around site e
      = ⟨resultOf (judge client site.sessions.store e), site,
          noticesOf (judge client site.sessions.store e)⟩ := by
  simp only [extract, h]

/-- A login changes nothing. -/
theorem site_extract_of_login
    (h : e.parameterNamed? client.settings.logoutEndpointParameter = .ok none) :
    (extract client around site e).site = site := by
  rw [extract_of_login h]

end RelyingParty.Callback
