import RelyingParty.Callback.Extraction
import RelyingParty.Http.PathPattern
import RelyingParty.Http.Request
import RelyingParty.Http.Response

set_option autoImplicit false

/-! # The callback endpoint

The callback URL of a client is served under the paths of one form. GET and POST are handled; a path
that differs only in slashes at its end is redirected, any other one is not found.

A login that failed is answered without a reason, unless the endpoint was set up to tell it. What
happens at a login that succeeded is up to the application. -/

namespace RelyingParty

/-- What an application does with credentials: a response, the site and the exchange after it. -/
abbrev LoginHandler :=
  Logout.Sessions → Exchange → Credentials → Except Fault Response × Logout.Sessions × Exchange

/-- The callback endpoint of a client. -/
structure Endpoint where
  /-- The form of the paths that are served. -/
  pattern : PathPattern := .ofPath "/callback"
  /-- Whether a failed login is answered with the reason. -/
  tellsReason : Bool
  onCredentials : LoginHandler

/-- Where a request goes. -/
inductive Routed where
  /-- To the callback. -/
  | callback (exchange : Exchange)
  /-- Nowhere; it is answered at once. -/
  | reply (response : Response)
  /-- Nowhere; its body is not read. -/
  | fault (cause : Fault)

namespace Endpoint

/-! ## Finding the callback -/

/-- The methods that are handled. -/
def methods : List String := ["GET", "POST"]

/-- An error response of the server. -/
def problem (status : Nat) (detail : String) (headers : Entries String String) : Response :=
  Response.ofTexts status [("detail", detail)] headers

/-- A path without the slashes at its end. -/
def withoutSlashes (path : String) : String :=
  String.ofList (path.toList.reverse.dropWhile (· == '/')).reverse

/-- A path with a slash added to its end, or with the slashes at its end removed. -/
def otherPath (path : String) : String :=
  if path.toList.getLast? = some '/' then withoutSlashes path else path ++ "/"

/-- The characters that stay in an address, besides letters and digits. -/
def addressChars : List Char := "_.-~:/%#?=@[]!$&'()*+,;".toList

/-- An address with all other characters written as bytes. -/
def addressText (s : String) : String :=
  String.ofList <| s.toList.flatMap fun c =>
    if c.isAlphanum || addressChars.contains c then [c]
    else
      (String.utf8EncodeChar c).flatMap fun b =>
        '%' :: (Text.hexDigits 2 b.toNat).map Char.toUpper

/-- A character of a host's name. -/
def isHostChar (c : Char) : Bool := c.isAlphanum || "-._~!$&'()*+,;=%".toList.contains c

/-- A character of an address between brackets. -/
def isBracketedChar (c : Char) : Bool := c.isAlphanum || c == ':' || c == '.'

/-- What follows the host at the beginning of some characters, if there is one. -/
def afterHost? : List Char → Option (List Char)
  | '[' :: cs =>
    match cs.dropWhile isBracketedChar with
    | ']' :: rest => some rest
    | _ => none
  | cs => if cs.head?.any isHostChar then some (cs.dropWhile isHostChar) else none

/-- Whether a text is a host, perhaps with a port. -/
def isHost (s : String) : Bool :=
  match afterHost? s.toList with
  | some [] => true
  | some (':' :: port) => port.all Char.isDigit
  | _ => false

/-- The origin a request was sent to. What it states in a header counts only if it is a host. -/
def originOf (r : Request) : String :=
  let stated := (Http.headerValues r.headers "host").head?.filter isHost
  r.scheme ++ "://" ++ stated.getD r.server

/-- The redirection to the same address with another path. -/
def redirection (r : Request) (path : String) : Response :=
  let query := Text.ofUtf8Lenient r.query
  let target := originOf r ++ path ++ (if query = "" then "" else "?" ++ query)
  Response.withBody 307 "" [("location", addressText target)]

/-- Whether the callback is served under a path. -/
def serves (ep : Endpoint) (path : String) : Bool := ep.pattern.accepts path.toList

/-- Where a request goes. -/
def route (ep : Endpoint) (r : Request) : Routed :=
  if ep.serves r.path then
    if !methods.contains r.method then
      .reply (problem 405 "Method Not Allowed" [("allow", ", ".intercalate methods)])
    else
      match r.exchange with
      | .ok exchange => .callback exchange
      | .error (.refused error) => .reply (problem 400 error.message [])
      | .error (.fault cause) => .fault cause
  else if r.path ≠ "/" && ep.serves (otherPath r.path) then
    .reply (redirection r (otherPath r.path))
  else .reply (problem 404 "Not Found" [])

/-! ## Answering -/

/-- The response to a login that failed. -/
def unauthorized (members : List (String × String)) : Response := Response.ofTexts 401 members []

/-- A response with the headers of the exchange. -/
def withHeaders (response : Response) (e : Exchange) : Except Fault Response :=
  response.setHeaders e.responseHeaders

/-- An answer of the endpoint. -/
structure Answered where
  response : Except Fault Response
  site : Site
  notices : Notices

/-- Answer a request whose handling ended with a result. -/
def respond (ep : Endpoint) (site : Site) (e : Exchange) :
    ExtractionResult → Except Fault Response × Site
  | .respond immediate =>
    (withHeaders (Response.withBody immediate.status immediate.body [])
      (immediate.applyHeaders e), site)
  | .credentials credentials =>
    match ep.onCredentials site.sessions e credentials with
    | (.ok response, sessions, e) => (withHeaders response e, { site with sessions })
    | (.error cause, sessions, _) => (.error cause, { site with sessions })
  | .noCredentials error =>
    let members := [("error", "Unauthorized"), ("provider_error", error.code.display)]
    (withHeaders (unauthorized members) e, site)
  | .fatal reason =>
    let detail := if ep.tellsReason then [("detail", reason)] else []
    (withHeaders (unauthorized (("error", "Authentication failed") :: detail)) e, site)

/-- Handle a request to the callback and answer it. -/
def answer (ep : Endpoint) (client : Client) (around : Token.Surroundings) (site : Site)
    (e : Exchange) : Answered :=
  let extraction := Callback.extract client around site e
  match extraction.result with
  | .error cause => ⟨.error cause, extraction.site, extraction.notices⟩
  | .ok result =>
    let (response, site) := respond ep extraction.site e result
    ⟨response, site, extraction.notices⟩

end Endpoint

end RelyingParty
