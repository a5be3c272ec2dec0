import RelyingParty.Configuration.Field
import RelyingParty.Url.Stated

set_option autoImplicit false

/-! # Settings of a client

The settings say who the client is, where its callback is, which switches are on and how request
parameters are called. They come from arguments and from the environment; an argument wins over a
variable of the environment. Names do not depend on case; a variable's name has a prefix, and
unknown variables are ignored, while an unknown argument is a problem.

While a client is at work, its settings may be replaced by values of any type. That is why all of
them but the switches are values: whoever uses one finds out whether it can.

`Settings.check` looks for what a client cannot work without, and collects warnings about switches
that weaken it. -/

namespace RelyingParty

/-- The settings of a client. -/
structure Settings where
  /-- The name of the client, to which its session attributes belong. -/
  clientName : Value := .text "OidcClient"
  /-- The identifier registered with the provider. -/
  clientId : Value := .null
  /-- The callback URL registered with the provider. -/
  callbackUrl : Value := .null
  /-- Whether the callback URL carries the client's name. -/
  callbackUrlClientParameter : Bool := false
  /-- Where the provider's metadata is published. -/
  discoveryUri : Value := .null
  /-- Whether a callback must return the state that was sent. -/
  withState : Bool := true
  /-- Whether logout tokens are verified. -/
  logoutValidation : Bool := true
  /-- The algorithms tokens may be signed under. -/
  allowedAlgorithms : Value := .list [.text "RS256"]
  /-- The seconds by which times may be off. -/
  clockSkewSeconds : Value := .int 30
  /-- The seconds for which the provider's keys are kept. -/
  jwksTtlSeconds : Value := .int 3600
  /-- The parameter that marks a logout request. -/
  logoutEndpointParameter : Value := .text "logoutendpoint"
  /-- The parameter with the provider's session identifier. -/
  sessionIdParameter : Value := .text "sid"
  /-- The parameter with the client's name. -/
  clientNameParameter : Value := .text "client_name"
  /-- The cookie with the session's identifier. -/
  sessionCookieName : Value := .text "session"
  /-- The address of a shared store for the logout index. -/
  redisUrl : Value := .null
  /-- Whether error responses tell the reason. -/
  debug : Bool := false
  deriving Repr, Inhabited

/-- Why there are no settings. -/
inductive SettingsError where
  /-- A variable that should hold JSON does not. -/
  | unreadable
  /-- Some fields have problems. -/
  | invalid (problems : List Problem)
  deriving DecidableEq, Repr

namespace Settings

/-! ## Reading -/

/-- The names of all settings, in alphabetical order. -/
def names : List String :=
  ["allowed_algorithms", "callback_url", "callback_url_client_parameter", "client_id",
   "client_name", "client_name_parameter", "clock_skew_seconds", "debug", "discovery_uri",
   "jwks_ttl_seconds", "logout_endpoint_parameter", "logout_validation", "redis_url",
   "session_cookie_name", "session_id_parameter", "with_state"]

/-- A name without regard to case. The Kelvin sign is a letter K. -/
def lowerName (name : String) : String :=
  String.ofList (name.toList.map fun c => if c = '\u212A' then 'k' else c.toLower)

/-- What the variables of the environment that hold settings start with. -/
def variablePrefix : String := "oidc_rp_"

/-- The arguments by the names of the settings; of two that differ in case, the first one counts. -/
def namedArguments (arguments : Entries String Value) : Entries String Value :=
  arguments.foldl (fun named (name, value) =>
    let key := if names.contains (lowerName name) then lowerName name else name
    if named.contains key then named else named.insert key value) []

/-- The value of a variable; of two that differ in case, the last one counts. -/
def environmentValue? (environment : Entries String String) (name : String) : Option String :=
  (environment.reverse.find? fun (key, _) => lowerName key == variablePrefix ++ name).map (·.2)

/-- The values the environment gives. A list is written as JSON, and null gives nothing. -/
def fromEnvironment (environment : Entries String String) :
    Except (Failure SettingsError) (Entries String Value) :=
  names.foldlM (fun values name =>
    match environmentValue? environment name with
    | none => .ok values
    | some text =>
      if name = "allowed_algorithms" then
        match Json.read text with
        | .error .tooDeep => .error (.fault .tooDeep)
        | .error _ => .error (.refused .unreadable)
        | .ok .null => .ok values
        | .ok v => .ok (values.insert name v)
      else .ok (values.insert name (.text text))) []

/-- Text as a value. -/
def text : Field.Reader Value := fun v => (Field.text v).map .text

/-- Text that may be left out, as a value. -/
def optionalText : Field.Reader Value
  | .null => .ok .null
  | v => text v

/-- A list of texts, as a value. -/
def texts : Field.Reader Value := fun v => (Field.texts v).map fun ts => .list (ts.map .text)

/-- Read the settings from their values. -/
def reading (values : Entries String Value) : Field.Reading Settings := do
  for (name, _) in values do
    unless names.contains name do
      Field.note name [⟨[], .extraForbidden⟩]
  let d : Settings := {}
  return {
    clientName := ← Field.member values "client_name" text d.clientName
    clientId := ← Field.member values "client_id" optionalText d.clientId
    callbackUrl := ← Field.member values "callback_url" optionalText d.callbackUrl
    callbackUrlClientParameter := ← Field.member values "callback_url_client_parameter"
      Field.switch d.callbackUrlClientParameter
    discoveryUri := ← Field.member values "discovery_uri" optionalText d.discoveryUri
    withState := ← Field.member values "with_state" Field.switch d.withState
    logoutValidation := ← Field.member values "logout_validation" Field.switch d.logoutValidation
    allowedAlgorithms := ← Field.member values "allowed_algorithms" texts d.allowedAlgorithms
    clockSkewSeconds := ← Field.member values "clock_skew_seconds" Field.number
      d.clockSkewSeconds
    jwksTtlSeconds := ← Field.member values "jwks_ttl_seconds" Field.number d.jwksTtlSeconds
    logoutEndpointParameter := ← Field.member values "logout_endpoint_parameter" text
      d.logoutEndpointParameter
    sessionIdParameter := ← Field.member values "session_id_parameter" text
      d.sessionIdParameter
    clientNameParameter := ← Field.member values "client_name_parameter" text
      d.clientNameParameter
    sessionCookieName := ← Field.member values "session_cookie_name" text
      d.sessionCookieName
    redisUrl := ← Field.member values "redis_url" optionalText d.redisUrl
    debug := ← Field.member values "debug" Field.switch d.debug }

/-- The settings from arguments and the environment. -/
def read (arguments : Entries String Value) (environment : Entries String String) :
    Except (Failure SettingsError) Settings := do
  let values ← fromEnvironment environment
  match Field.run (reading (Entries.insertAll values (namedArguments arguments))) with
  | .ok settings => .ok settings
  | .error problems => .error (.refused (.invalid problems))

/-- The settings by name, in alphabetical order. -/
def fields (s : Settings) : List (String × Value) :=
  [("allowed_algorithms", s.allowedAlgorithms),
   ("callback_url", s.callbackUrl),
   ("callback_url_client_parameter", .bool s.callbackUrlClientParameter),
   ("client_id", s.clientId),
   ("client_name", s.clientName),
   ("client_name_parameter", s.clientNameParameter),
   ("clock_skew_seconds", s.clockSkewSeconds),
   ("debug", .bool s.debug),
   ("discovery_uri", s.discoveryUri),
   ("jwks_ttl_seconds", s.jwksTtlSeconds),
   ("logout_endpoint_parameter", s.logoutEndpointParameter),
   ("logout_validation", .bool s.logoutValidation),
   ("redis_url", s.redisUrl),
   ("session_cookie_name", s.sessionCookieName),
   ("session_id_parameter", s.sessionIdParameter),
   ("with_state", .bool s.withState)]

/-! ## Changing -/

/-- The wording when there is no setting of a name. -/
def unknownNameMessage (name : String) : String :=
  "\"OidcSettings\" object has no field \"" ++ name ++ "\""

/-- What is known about settings besides their values; it cannot be replaced. -/
def derivedNames : List String := ["model_extra", "model_fields_set"]

/-- Whether a name is one of a private note, which settings keep without a meaning for it. -/
def isPrivateName (name : String) : Bool := name.toList.head? == some '_'

/-- Replace one setting while the client is at work. The value is not checked: a switch is on for
    any value but an empty one. -/
def assign (s : Settings) (name : String) (value : Value) : Except Fault Settings :=
  match name with
  | "client_name" => .ok { s with clientName := value }
  | "client_id" => .ok { s with clientId := value }
  | "callback_url" => .ok { s with callbackUrl := value }
  | "callback_url_client_parameter" =>
    .ok { s with callbackUrlClientParameter := value.truthy }
  | "discovery_uri" => .ok { s with discoveryUri := value }
  | "with_state" => .ok { s with withState := value.truthy }
  | "logout_validation" => .ok { s with logoutValidation := value.truthy }
  | "allowed_algorithms" => .ok { s with allowedAlgorithms := value }
  | "clock_skew_seconds" => .ok { s with clockSkewSeconds := value }
  | "jwks_ttl_seconds" => .ok { s with jwksTtlSeconds := value }
  | "logout_endpoint_parameter" => .ok { s with logoutEndpointParameter := value }
  | "session_id_parameter" => .ok { s with sessionIdParameter := value }
  | "client_name_parameter" => .ok { s with clientNameParameter := value }
  | "session_cookie_name" => .ok { s with sessionCookieName := value }
  | "redis_url" => .ok { s with redisUrl := value }
  | "debug" => .ok { s with debug := value.truthy }
  | _ =>
    if isPrivateName name then .ok s
    else if derivedNames.contains name then .error .missingOperation
    else .error (.badValue (unknownNameMessage name))

/-! ## Checking -/

/-- Why a client cannot work with its settings. -/
inductive CheckError where
  | clientId
  | callbackUrl
  /-- The callback URL is not read. -/
  | malformedUrl (cause : UrlError)
  /-- The callback URL is not one of the web. -/
  | relativeUrl (url : Value)
  | algorithms
  deriving Repr

/-- The wording of an error. -/
def CheckError.message : CheckError → String
  | .clientId => "client_id must be configured"
  | .callbackUrl => "callback_url must be configured"
  | .malformedUrl cause => cause.message
  | .relativeUrl url => "callback_url '" ++ url.display ++ "' must be an absolute http(s) URL"
  | .algorithms => "allowed_algorithms cannot be empty"

/-- What weakens a client. -/
inductive Warning where
  /-- Callbacks are accepted without the state that was sent. -/
  | noState
  /-- Logout tokens are accepted without a signature. -/
  | noLogoutValidation
  deriving DecidableEq, Repr

/-- The wording of a warning. -/
def Warning.message : Warning → String
  | .noState => "State validation is disabled: callbacks are not protected against CSRF!"
  | .noLogoutValidation =>
    "Logout token validation is disabled: back-channel logout trusts unverified tokens!"

/-- The warnings about settings. -/
def warnings (s : Settings) : List Warning :=
  (if s.withState then [] else [.noState])
    ++ (if s.logoutValidation then [] else [.noLogoutValidation])

/-- The client needs an identifier, a callback URL of the web and an algorithm; if it has them, the
    warnings about its settings. -/
def check (s : Settings) : Except (Failure CheckError) (List Warning) := do
  unless s.clientId.truthy do throw (.refused .clientId)
  unless s.callbackUrl.truthy do throw (.refused .callbackUrl)
  let isWeb ← (Url.isWebValue s.callbackUrl).mapError (Failure.map .malformedUrl)
  unless isWeb do throw (.refused (.relativeUrl s.callbackUrl))
  unless s.allowedAlgorithms.truthy do throw (.refused .algorithms)
  return s.warnings

end Settings

end RelyingParty
