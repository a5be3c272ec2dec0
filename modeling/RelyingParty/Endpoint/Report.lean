import RelyingParty.Endpoint

set_option autoImplicit false

/-! # Reporting what a login yields

The plainest application of the endpoint answers a login with what it was given: the parameters and
the cookies of the request, and the credentials. It may first record the session of the provider
that a parameter names. -/

namespace RelyingParty.Report

/-- The parameter that names the session of the provider. -/
def sessionParameter : String := "sid"

/-- An access token as a value. -/
def tokenValue (t : AccessToken) : Value :=
  .dict
    [(.text "value", t.value), (.text "token_type", t.tokenType),
     (.text "expires_in", t.expiresIn), (.text "scope", t.scope)]

/-- Credentials as a value. -/
def credentialsValue (c : Credentials) : Value :=
  .dict
    [(.text "code", c.code), (.text "id_token", c.idToken),
     (.text "access_token", (c.accessToken.map tokenValue).getD .null)]

/-- Parameters as a value. -/
def parametersValue (p : Parameters) : Value :=
  .dict (p.map fun (name, values) => (.text name, .list (values.map .text)))

/-- Cookies as a value. -/
def cookiesValue (cookies : Entries String String) : Value :=
  .dict (cookies.map fun (name, value) => (.text name, .text value))

/-- What the application was given. -/
def value (e : Exchange) (c : Credentials) : Value :=
  .dict
    [(.text "parameters", parametersValue e.parameters), (.text "cookies", cookiesValue e.cookies),
     (.text "credentials", credentialsValue c)]

/-- The response that reports it. -/
def response (e : Exchange) (c : Credentials) : Except Fault Response :=
  match Json.write .compact (value e c) with
  | .ok text => .ok (Response.ofJsonText 200 text [])
  | .error _ => .error .wrongType

/-- The application, which may record logins. -/
def handler (recordsLogins : Bool) : LoginHandler := fun sessions e c =>
  if recordsLogins then
    match sessions.record e ((e.parameter? sessionParameter).getD "") with
    | (.ok (), sessions, e) => (response e c, sessions, e)
    | (.error cause, sessions, e) => (.error cause, sessions, e)
  else (response e c, sessions, e)

end RelyingParty.Report
