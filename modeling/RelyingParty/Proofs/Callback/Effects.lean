import RelyingParty.Endpoint
import RelyingParty.Proofs.Callback.Classification
import RelyingParty.Proofs.Logout.Channels

set_option autoImplicit false

/-! # What a login leaves behind

The answer to an authentication request is judged by its parameters, by the settings and the
metadata of the client, and by one value in the session of the browser. Nothing is written anywhere:
no session is started or changed, no index is looked at, no keys are fetched and no header is set.
So a login may be repeated, and a login that failed tells the browser nothing but that. A request
with the marker of a logout goes another way, on which there are no credentials:
`login_leaves_no_trace`. Logins that cannot be trusted do not even tell why:
`failed_logins_look_alike`. -/

namespace RelyingParty.Callback

open Logout (siteAfter quiet frontRequest)

variable {client : Client} {around around' : Token.Surroundings} {site site' : Site} {e : Exchange}
  {store store' : SessionStore}

/-! ## What is looked at -/

/-- A judgement looks at nothing of the sessions but the state that was sent. -/
theorem judge_congr
    (h : store'.get? e client.stateAttribute = store.get? e client.stateAttribute) :
    judge client store' e = judge client store e := by
  have hsuccess (response : SuccessResponse) :
      judgeSuccess client store' e response = judgeSuccess client store e response := by
    simp only [judgeSuccess, h]
  simp only [judge, hsuccess]

/-- Logins leave a site as it is. -/
theorem siteAfter_of_logins {requests : List (Token.Surroundings × Exchange)}
    (h : ∀ r ∈ requests,
      r.2.parameterNamed? client.settings.logoutEndpointParameter = .ok none) :
    siteAfter client site requests = site := by
  induction requests generalizing site with
  | nil => rfl
  | cons r rest ih =>
    obtain ⟨hr, hrest⟩ := List.forall_mem_cons.1 h
    show siteAfter client (extract client r.1 site r.2).site rest = site
    rw [site_extract_of_login hr, ih hrest]

/-- A request with the marker of a logout ends in a response or a fault. -/
theorem result_of_marker {marker : String}
    (h : e.parameterNamed? client.settings.logoutEndpointParameter = .ok (some marker))
    (c : Credentials) : (extract client around site e).result ≠ .ok (.credentials c) := by
  simp only [extract, h]
  intro hresult
  obtain ⟨response, -, hresponse⟩ := map_eq_ok_iff.1 hresult
  exact absurd hresponse (by simp)

/-! ## The answer -/

/-- An application gets the sessions and the exchange of a login as they were before it, and is the
    only one to change them. -/
theorem answer_of_credentials (ep : Endpoint)
    (hlogin : e.parameterNamed? client.settings.logoutEndpointParameter = .ok none)
    {c : Credentials} (hresult : (extract client around site e).result = .ok (.credentials c)) :
    (ep.answer client around site e).site
      = { site with sessions := (ep.onCredentials site.sessions e c).2.1 } := by
  simp only [Endpoint.answer, hresult, site_extract_of_login hlogin, Endpoint.respond]
  rcases ep.onCredentials site.sessions e c with ⟨_ | _, sessions, e'⟩
  · rfl
  · rfl

/-- A login that failed is answered with the headers that were there before it. -/
theorem answer_of_failed (ep : Endpoint)
    (hlogin : e.parameterNamed? client.settings.logoutEndpointParameter = .ok none)
    (hfailed : ∀ c, (extract client around site e).result ≠ .ok (.credentials c)) :
    (ep.answer client around site e).site = site
      ∧ ∀ response, (ep.answer client around site e).response = .ok response →
          ∃ members,
            (Endpoint.unauthorized members).setHeaders e.responseHeaders = .ok response := by
  rw [extract_of_login hlogin] at hfailed
  unfold Endpoint.answer
  rw [extract_of_login hlogin]
  generalize judge client site.sessions.store e = judgement at hfailed ⊢
  rcases judgement with (reason | cause) | (credentials | error)
  · exact ⟨rfl, fun response hresponse => ⟨_, hresponse⟩⟩
  · exact ⟨rfl, fun response hresponse => absurd hresponse (by simp [resultOf])⟩
  · exact absurd rfl (hfailed credentials)
  · exact ⟨rfl, fun response hresponse => ⟨_, hresponse⟩⟩

/-- A request comes without headers for its response. -/
theorem responseHeaders_of_exchange {r : Request} (hr : r.exchange = .ok e) :
    e.responseHeaders = [] := by
  obtain ⟨fields, -, rfl⟩ := map_eq_ok_iff.1 hr
  rfl

/-- No cookie goes with the answer to a login that failed. -/
theorem keys_headers_of_failed (ep : Endpoint) {r : Request} (hr : r.exchange = .ok e)
    (hlogin : e.parameterNamed? client.settings.logoutEndpointParameter = .ok none)
    (hfailed : ∀ c, (extract client around site e).result ≠ .ok (.credentials c))
    {response : Response} (hresponse : (ep.answer client around site e).response = .ok response) :
    Entries.keys response.headers = ["content-length", "content-type"] := by
  obtain ⟨members, hheaders⟩ := (answer_of_failed ep hlogin hfailed).2 response hresponse
  rw [responseHeaders_of_exchange hr] at hheaders
  rw [← Except.ok.inj hheaders]
  rfl

/-! ## Logins and other requests -/

/-- **A login leaves no trace.** The site stays as it is, whatever comes of the login, so that it
    may be repeated after any other logins and at any time. It depends on the site only by the state
    in the session of the request. If it failed, nothing becomes of it but a response with the
    headers that were there before, and if it succeeded, the application starts where the login did.
    A request with the marker of a logout never yields credentials. -/
theorem login_leaves_no_trace (client : Client) (around : Token.Surroundings) (site : Site)
    (e : Exchange) :
    (e.parameterNamed? client.settings.logoutEndpointParameter = .ok none →
      (extract client around site e).site = site
        ∧ (∀ requests : List (Token.Surroundings × Exchange), (∀ r ∈ requests,
              r.2.parameterNamed? client.settings.logoutEndpointParameter = .ok none) →
            ∀ around', extract client around' (siteAfter client site requests) e
              = extract client around site e)
        ∧ (∀ around' site', site'.sessions.store.get? e client.stateAttribute
              = site.sessions.store.get? e client.stateAttribute →
            (extract client around' site' e).result = (extract client around site e).result)
        ∧ ∀ ep : Endpoint,
            ((∀ c, (extract client around site e).result ≠ .ok (.credentials c)) →
              (ep.answer client around site e).site = site
                ∧ ∀ response, (ep.answer client around site e).response = .ok response →
                    ∃ members, (Endpoint.unauthorized members).setHeaders e.responseHeaders
                      = .ok response)
            ∧ ∀ c, (extract client around site e).result = .ok (.credentials c) →
                (ep.answer client around site e).site
                  = { site with sessions := (ep.onCredentials site.sessions e c).2.1 })
      ∧ ∀ marker, e.parameterNamed? client.settings.logoutEndpointParameter = .ok (some marker) →
          ∀ c, (extract client around site e).result ≠ .ok (.credentials c) := by
  refine ⟨fun hlogin => ⟨site_extract_of_login hlogin, ?_, ?_, fun ep => ?_⟩,
    fun marker hmarker => result_of_marker hmarker⟩
  · intro requests hlogins around'
    rw [siteAfter_of_logins hlogins, extract_of_login hlogin, extract_of_login hlogin]
  · intro around' site' hstate
    rw [extract_of_login hlogin, extract_of_login hlogin, judge_congr hstate]
  · exact ⟨answer_of_failed ep hlogin, fun c => answer_of_credentials ep hlogin⟩

/-- A login after another one, and a logout, at a site that is waiting for an answer. -/
theorem no_trace_exampleSite :
    exampleAnswer.parameterNamed? exampleClient.settings.logoutEndpointParameter = .ok none
      ∧ extract exampleClient ⟨Key.verify, 60⟩
          (siteAfter exampleClient exampleSite [(quiet, deepAnswer)]) exampleAnswer
        = extract exampleClient quiet exampleSite exampleAnswer
      ∧ (frontRequest "q" []).parameterNamed? exampleClient.settings.logoutEndpointParameter
        = .ok (some "")
      ∧ ¬ ∃ c, (extract exampleClient quiet exampleSite (frontRequest "q" [])).result
        = .ok (.credentials c) := by
  have hlogins : ∀ r ∈ [(quiet, deepAnswer)],
      r.2.parameterNamed? exampleClient.settings.logoutEndpointParameter = .ok none := by
    intro r hr
    rw [List.mem_singleton.1 hr]
    rfl
  refine ⟨rfl, ?_, rfl, fun ⟨c, hc⟩ => ?_⟩
  · exact ((login_leaves_no_trace exampleClient quiet exampleSite exampleAnswer).1 rfl).2.1 _
      hlogins _
  · exact (login_leaves_no_trace _ quiet exampleSite (frontRequest "q" [])).2 "" rfl c hc

/-! ## Logins that cannot be trusted -/

/-- The response to a login that cannot be trusted, if no reason is told. -/
def failedResponse : Response where
  status := 401
  headers := [("content-length", "33"), ("content-type", "application/json")]
  body := "\x7b\"error\":\"Authentication failed\"\x7d"

theorem unauthorized_eq_failedResponse :
    Endpoint.unauthorized [("error", "Authentication failed")] = failedResponse := by
  decide +kernel

/-- A request goes to the callback if its path is served, its method is handled and its body can be
    read. -/
theorem route_eq_callback_iff {ep : Endpoint} {r : Request} :
    ep.route r = .callback e ↔
      ep.serves r.path = true ∧ r.method ∈ Endpoint.methods ∧ r.exchange = .ok e := by
  unfold Endpoint.route
  split
  · next hserves =>
    rw [← List.contains_iff_mem]
    cases hmethod : Endpoint.methods.contains r.method with
    | false => simp
    | true =>
      cases hexchange : r.exchange with
      | ok e' => simp [hserves]
      | error failure => cases failure <;> simp
  · next hserves =>
    refine iff_of_false ?_ fun h => hserves h.1
    split <;> simp

/-- Only logins end without trust; a logout is carried out or refused. -/
theorem login_of_fatal {reason : String}
    (h : (extract client around site e).result = .ok (.fatal reason)) :
    e.parameterNamed? client.settings.logoutEndpointParameter = .ok none := by
  cases hmarker : e.parameterNamed? client.settings.logoutEndpointParameter with
  | error cause =>
    simp only [extract, hmarker] at h
    exact absurd h (by simp)
  | ok marker =>
    cases marker with
    | none => rfl
    | some marker =>
      simp only [extract, hmarker, map_eq_ok_iff] at h
      obtain ⟨response, -, hrespond⟩ := h
      exact absurd hrespond (by simp)

/-- A login that cannot be trusted is answered without the application, at a site that stays as it
    is. -/
theorem answer_of_fatal {ep : Endpoint} (hquiet : ep.tellsReason = false) {r : Request}
    (hr : ep.route r = .callback e) {reason : String}
    (h : (extract client around site e).result = .ok (.fatal reason)) :
    ep.answer client around site e
      = ⟨.ok failedResponse, site, (extract client around site e).notices⟩ := by
  obtain ⟨-, -, hexchange⟩ := route_eq_callback_iff.1 hr
  have hsite : (extract client around site e).site = site :=
    site_extract_of_login (login_of_fatal h)
  have hresponse : Endpoint.withHeaders failedResponse e = .ok failedResponse := by
    rw [Endpoint.withHeaders, responseHeaders_of_exchange hexchange]
    rfl
  simp only [Endpoint.answer, h, Endpoint.respond, hquiet, hsite, Bool.false_eq_true, if_false,
    unauthorized_eq_failedResponse, hresponse]

/-- **Logins that cannot be trusted look alike.** Unless the endpoint tells reasons, which it does
    if the client is to be debugged, any two requests that end so get the same response, whatever
    sites they meet: neither the state a session holds nor the issuer, the session or the reason
    shows. The application is not asked, and the sites stay as they are. -/
theorem failed_logins_look_alike {ep : Endpoint} {client : Client}
    (hmounted : ep.tellsReason = client.settings.debug) (hdebug : client.settings.debug = false)
    {around around' : Token.Surroundings} {site site' : Site} {r r' : Request} {e e' : Exchange}
    (hr : ep.route r = .callback e) (hr' : ep.route r' = .callback e') {reason reason' : String}
    (h : (extract client around site e).result = .ok (.fatal reason))
    (h' : (extract client around' site' e').result = .ok (.fatal reason')) :
    (ep.answer client around site e).response = .ok failedResponse
      ∧ (ep.answer client around' site' e').response = .ok failedResponse
      ∧ (ep.answer client around site e).site = site
      ∧ (ep.answer client around' site' e').site = site'
      ∧ ∀ handler : LoginHandler,
          ({ ep with onCredentials := handler } : Endpoint).answer client around site e
              = ep.answer client around site e
            ∧ ({ ep with onCredentials := handler } : Endpoint).answer client around' site' e'
              = ep.answer client around' site' e' := by
  have hquiet : ep.tellsReason = false := hmounted.trans hdebug
  have hanswer := answer_of_fatal hquiet hr h
  have hanswer' := answer_of_fatal hquiet hr' h'
  rw [hanswer, hanswer']
  refine ⟨rfl, rfl, rfl, rfl, fun handler => ?_⟩
  have hroute : ∀ r, ({ ep with onCredentials := handler } : Endpoint).route r = ep.route r :=
    fun _ => rfl
  exact ⟨answer_of_fatal hquiet ((hroute r).trans hr) h,
    answer_of_fatal hquiet ((hroute r').trans hr') h'⟩

/-- An answer with the state of another login. -/
def strayAnswer : Exchange where
  parameters := [("code", ["c"]), ("state", ["t"])]
  cookies := [("session", "a")]

theorem fatal_strayAnswer :
    (extract exampleClient quiet exampleSite strayAnswer).result
      = .ok (.fatal CallbackError.otherState.message) := by
  rfl

/-- The request of a browser that is in a session, with the state of another login. -/
def strayRequest : Request where
  method := "GET"
  scheme := "https"
  server := "rp"
  path := "/callback"
  query := Text.utf8 "code=c&state=t"
  headers := [("Cookie", "session=a")]
  body := []

/-- A request with nothing in it. -/
def bareRequest : Request where
  method := "POST"
  scheme := "https"
  server := "rp"
  path := "/callback"
  query := []
  headers := []
  body := []

/-- An endpoint that tells no reasons. -/
def quietEndpoint : Endpoint where
  tellsReason := false
  onCredentials := fun sessions e _ => (.error .missingOperation, sessions, e)

/-- A browser whose session holds another state and one without a session get the same response. -/
theorem look_alike_strayRequest :
    quietEndpoint.tellsReason = exampleClient.settings.debug
      ∧ exampleClient.settings.debug = false
      ∧ quietEndpoint.route strayRequest = .callback strayAnswer
      ∧ quietEndpoint.route bareRequest = .callback {}
      ∧ (extract exampleClient quiet exampleSite strayAnswer).result
        = .ok (.fatal CallbackError.otherState.message)
      ∧ (extract exampleClient quiet exampleSite {}).result
        = .ok (.fatal CallbackError.noExpectedState.message)
      ∧ (quietEndpoint.answer exampleClient quiet exampleSite strayAnswer).response
        = (quietEndpoint.answer exampleClient quiet exampleSite {}).response := by
  obtain ⟨e, hexchange, he⟩ := exists_ok_of_toOption (x := strayRequest.exchange)
    (p := fun e => e == strayAnswer) (by decide +kernel)
  obtain rfl := eq_of_beq he
  have hstray : quietEndpoint.route strayRequest = .callback strayAnswer :=
    route_eq_callback_iff.2 ⟨by decide +kernel, by decide, hexchange⟩
  have hbare : quietEndpoint.route bareRequest = .callback {} := rfl
  have hfatal : (extract exampleClient quiet exampleSite {}).result
      = .ok (.fatal CallbackError.noExpectedState.message) := rfl
  obtain ⟨hresponse, hresponse', -⟩ :=
    failed_logins_look_alike rfl rfl hstray hbare fatal_strayAnswer hfatal
  exact ⟨rfl, rfl, hstray, hbare, fatal_strayAnswer, hfatal, hresponse.trans hresponse'.symm⟩

end RelyingParty.Callback
