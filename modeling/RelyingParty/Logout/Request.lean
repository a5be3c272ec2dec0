import RelyingParty.Callback.Outcome
import RelyingParty.Client
import RelyingParty.Logout.Claims
import RelyingParty.Logout.Handler
import RelyingParty.Token.Verifier

set_option autoImplicit false

/-! # Logout requests

A logout request that carries a token comes from the provider itself, any other one through the
user's browser. The token has to be signed and in order before it ends a session; if the client does
not verify logout tokens, any signed token is believed, and a notice says so.

`answer` gives the response: one that no cache keeps when the logout was carried out, a bad request
when it was refused. -/

namespace RelyingParty

/-- A site: its sessions, and what verifies its tokens. -/
structure Site where
  sessions : Logout.Sessions
  verifier : Token.Verifier
  remote : Remote

namespace Logout

/-- The parameter with the logout token. -/
def tokenParameter : String := "logout_token"

/-- The notice that an unverified token is believed. -/
def unverifiedNotice : Notice :=
  .warning "Logout token validation is disabled, trusting the unverified sid claim"

/-- The notice that a request is refused. -/
def refusalNotice (error : LogoutError) : Notice :=
  .error ("Logout request rejected: " ++ error.message)

/-- A decision about a logout token: the session it ends, null if it names none, and what the
    decision leaves behind. -/
structure Decision where
  session : Except LogoutFailure Value
  site : Site
  notices : Notices

/-- The session that verified claims end. -/
def sessionOfVerified : Except Token.TokenFailure Value → Except LogoutFailure Value
  | .ok claims => sessionOfClaims claims
  | .error failure => .error (failure.map .rejected)

/-- The decision about a logout token. -/
def decide (client : Client) (around : Token.Surroundings) (site : Site) (token : String) :
    Decision :=
  match ParsedToken.ofText token with
  | .error failure => ⟨.error (failure.map .token), site, []⟩
  | .ok parsed =>
    if parsed.encrypted then ⟨.error (.refused .encrypted), site, []⟩
    else if client.settings.logoutValidation then
      let v := site.verifier.verify around site.remote (.text token) .null
      ⟨sessionOfVerified v.result, { site with verifier := v.verifier, remote := v.remote },
        v.notices⟩
    else
      ⟨(unverifiedSession parsed.claims).mapError .refused, site, [unverifiedNotice]⟩

/-- An answer to a logout request. -/
structure Reply where
  response : Except Fault ImmediateResponse
  site : Site
  notices : Notices

/-- Carry out a decision. -/
def Decision.reply (d : Decision) : Reply :=
  match d.session with
  | .ok sid =>
    match d.site.sessions.logoutBack sid with
    | .ok sessions =>
      ⟨.ok .ok, { d.site with sessions }, d.notices ++ d.site.sessions.noticesOfBack sid⟩
    | .error cause => ⟨.error cause, d.site, d.notices⟩
  | .error (.refused error) => ⟨.ok .badRequest, d.site, d.notices ++ [refusalNotice error]⟩
  | .error (.fault cause) => ⟨.error cause, d.site, d.notices⟩

/-- The site after a front-channel logout. -/
def answerFront (client : Client) (site : Site) (e : Exchange) : Except Fault Site := do
  let sid ← e.parameterNamed? client.settings.sessionIdParameter
  let sessions ← site.sessions.logoutFront e (Value.ofText? sid)
  return { site with sessions }

/-- The answer to a logout request. -/
def answer (client : Client) (around : Token.Surroundings) (site : Site) (e : Exchange) : Reply :=
  match e.parameter? tokenParameter with
  | some token => (decide client around site token).reply
  | none =>
    match answerFront client site e with
    | .ok site => ⟨.ok .ok, site, []⟩
    | .error cause => ⟨.error cause, site, []⟩

end Logout

end RelyingParty
