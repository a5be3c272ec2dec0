import RelyingParty.Proofs.Callback.Effects
import RelyingParty.Proofs.Session.Writes

set_option autoImplicit false

/-! # The parameters that are looked at

A client looks at the parameters of the protocol, at the logout token, and at the two parameters its
settings name: the marker of a logout and the session that has ended. All others may be there, any
number of times and anywhere among these, and make no difference: `others_make_no_difference`.

The settings may name a parameter of the protocol. Nothing changes then, since that one is looked at
in any case. -/

namespace RelyingParty

/-! ## Requests that agree -/

/-- A parameter that a client looks at. -/
inductive Client.Observes (client : Client) : String → Prop where
  | marker {name : String} (h : client.settings.logoutEndpointParameter = .text name) :
      client.Observes name
  | session {name : String} (h : client.settings.sessionIdParameter = .text name) :
      client.Observes name
  | token : client.Observes Logout.tokenParameter
  | protocol (p : ProtocolParameter) : client.Observes p.name

/-- Two requests have the same values for each parameter that the client looks at, the same cookies
    and the same headers for their responses. -/
structure Client.Agree (client : Client) (e e' : Exchange) : Prop where
  parameters : ∀ name, client.Observes name →
    (Entries.get? e.parameters name).getD [] = (Entries.get? e'.parameters name).getD []
  cookies : e.cookies = e'.cookies
  headers : e.responseHeaders = e'.responseHeaders

variable {client : Client} {e e' : Exchange}

/-! ## Reading -/

namespace AuthenticationResponse

variable {parameters parameters' : Parameters}

/-- Reading a response looks at the parameters of the protocol only. -/
theorem parse_congr (h : ∀ p : ProtocolParameter, p.values parameters = p.values parameters')
    (redirectUri : Value) : parse redirectUri parameters = parse redirectUri parameters' := by
  have hvalue (p : ProtocolParameter) : p.value? parameters = p.value? parameters' := by
    rw [ProtocolParameter.value?, ProtocolParameter.value?, h]
  have hrepeated (p : ProtocolParameter) : p.isRepeated parameters = p.isRepeated parameters' := by
    rw [ProtocolParameter.isRepeated, ProtocolParameter.isRepeated, h]
  have hrepetition : checkRepetition parameters = checkRepetition parameters' := by
    simp only [checkRepetition, hrepeated]
  have hidToken : idToken parameters = idToken parameters' := by simp only [idToken, hvalue]
  have hlifetime : lifetime parameters = lifetime parameters' := by simp only [lifetime, hvalue]
  have haccessToken : accessToken parameters = accessToken parameters' := by
    simp only [accessToken, hvalue, hlifetime]
  simp only [parse, hvalue, hrepetition, hidToken, haccessToken]

end AuthenticationResponse

namespace Client.Agree

theorem parameter? (h : client.Agree e e') {name : String} (hname : client.Observes name) :
    e.parameter? name = e'.parameter? name := by
  rw [Exchange.parameter?, Exchange.parameter?, Parameters.first?, Parameters.first?,
    h.parameters name hname]

theorem parameterNamed? (h : client.Agree e e') {v : Value}
    (hv : ∀ name, v = .text name → client.Observes name) :
    e.parameterNamed? v = e'.parameterNamed? v := by
  cases v with
  | text name =>
    rw [Exchange.parameterNamed?, Exchange.parameterNamed?, h.parameter? (hv name rfl)]
  | _ => rfl

theorem resolve (h : client.Agree e e') (s : SessionStore) : s.resolve e = s.resolve e' :=
  SessionStore.resolve_congr (by rw [Exchange.cookie?, Exchange.cookie?, h.cookies])

/-! ## Judging and logging out -/

theorem judge (h : client.Agree e e') (s : SessionStore) :
    Callback.judge client s e = Callback.judge client s e' := by
  have hresponse : Callback.responseOf client e.parameters
      = Callback.responseOf client e'.parameters := by
    have hparse := AuthenticationResponse.parse_congr fun p => h.parameters p.name (.protocol p)
    simp only [Callback.responseOf, hparse]
  have hstate : s.get? e client.stateAttribute = s.get? e' client.stateAttribute := by
    rw [SessionStore.get?, SessionStore.get?, h.resolve]
  simp only [Callback.judge, Callback.judgeSuccess, hresponse, hstate]

theorem logoutFront (h : client.Agree e e') (s : Logout.Sessions) (v : Value) :
    s.logoutFront e v = s.logoutFront e' v := by
  simp only [Logout.Sessions.logoutFront, SessionIndex.logoutFront, h.resolve]

theorem answer (h : client.Agree e e') (around : Token.Surroundings) (site : Site) :
    Logout.answer client around site e = Logout.answer client around site e' := by
  have htoken : e.parameter? Logout.tokenParameter = e'.parameter? Logout.tokenParameter :=
    h.parameter? .token
  have hsession : e.parameterNamed? client.settings.sessionIdParameter
      = e'.parameterNamed? client.settings.sessionIdParameter :=
    h.parameterNamed? fun _ => .session
  simp only [Logout.answer, Logout.answerFront, htoken, hsession, h.logoutFront]

theorem extract (h : client.Agree e e') (around : Token.Surroundings) (site : Site) :
    Callback.extract client around site e = Callback.extract client around site e' := by
  have hmarker : e.parameterNamed? client.settings.logoutEndpointParameter
      = e'.parameterNamed? client.settings.logoutEndpointParameter :=
    h.parameterNamed? fun _ => .marker
  simp only [Callback.extract, hmarker, h.answer, h.judge]

end Client.Agree

/-! ## Responses -/

/-- The headers after those of an immediate response are set. -/
theorem ImmediateResponse.responseHeaders_applyHeaders (r : ImmediateResponse) (e : Exchange) :
    (r.applyHeaders e).responseHeaders = Entries.insertAll e.responseHeaders r.headers := by
  obtain ⟨status, body, headers⟩ := r
  show (headers.foldl _ e).responseHeaders = headers.foldl _ e.responseHeaders
  induction headers generalizing e with
  | nil => rfl
  | cons header rest ih => exact ih (e.setHeader header.1 header.2)

namespace Callback

open Logout (quiet)

/-- **No other parameter makes a difference.** Requests that agree on what the client looks at have
    the same result, leave the same sessions, indexes and keys, and give the same notices; and
    unless credentials go to the application, their responses are the same, with their headers. -/
theorem others_make_no_difference (around : Token.Surroundings) (site : Site)
    (h : client.Agree e e') :
    extract client around site e = extract client around site e'
      ∧ ∀ ep : Endpoint, (∀ c, (extract client around site e).result ≠ .ok (.credentials c)) →
          ep.answer client around site e = ep.answer client around site e' := by
  refine ⟨h.extract around site, fun ep hnone => ?_⟩
  unfold Endpoint.answer
  rw [← h.extract around site]
  dsimp only
  cases hresult : (extract client around site e).result with
  | error cause => rfl
  | ok result =>
    have hrespond : ∀ site', ep.respond site' e result = ep.respond site' e' result := by
      intro site'
      cases result with
      | credentials c => exact absurd hresult (hnone c)
      | respond immediate =>
        simp only [Endpoint.respond, Endpoint.withHeaders,
          ImmediateResponse.responseHeaders_applyHeaders, h.headers]
      | noCredentials error => simp only [Endpoint.respond, Endpoint.withHeaders, h.headers]
      | fatal reason => simp only [Endpoint.respond, Endpoint.withHeaders, h.headers]
    dsimp only
    rw [hrespond]

/-- The answer with the state of another login, among parameters that nobody looks at. -/
def crowdedAnswer : Exchange where
  parameters := [("page", ["1", "2"]), ("state", ["t"]), ("scroll", []), ("code", ["c"])]
  cookies := [("session", "a")]

theorem no_difference_crowdedAnswer :
    exampleClient.Agree strayAnswer crowdedAnswer
      ∧ extract exampleClient quiet exampleSite strayAnswer
        = extract exampleClient quiet exampleSite crowdedAnswer
      ∧ ∀ ep : Endpoint, ep.answer exampleClient quiet exampleSite strayAnswer
        = ep.answer exampleClient quiet exampleSite crowdedAnswer := by
  have hagree : exampleClient.Agree strayAnswer crowdedAnswer := by
    refine ⟨fun name hname => ?_, rfl, rfl⟩
    cases hname with
    | marker h =>
      obtain rfl := Value.text.inj h
      rfl
    | session h =>
      obtain rfl := Value.text.inj h
      rfl
    | token => rfl
    | protocol p => cases p <;> rfl
  obtain ⟨hextract, hanswer⟩ := others_make_no_difference quiet exampleSite hagree
  refine ⟨hagree, hextract, fun ep => hanswer ep fun c hc => ?_⟩
  rw [fatal_strayAnswer] at hc
  exact absurd hc (by simp)

end Callback

end RelyingParty
