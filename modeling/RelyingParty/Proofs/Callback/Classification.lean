import RelyingParty.Callback.Extraction
import RelyingParty.Proofs.Callback.Response
import RelyingParty.Proofs.Client
import RelyingParty.Proofs.Session.Store

set_option autoImplicit false

/-! # What becomes of a login

A request that is no logout ends in one of four ways, and `Verdict` says which: an unusable request
is fatal, an error of the provider is reported, a response that can be trusted yields credentials,
and any other one is fatal. `extract_verdict_iff` says that this is what becomes of every request
but those whose ID token is nested too deep; those end with a fault. -/

namespace RelyingParty.Callback

/-! ## Requests -/

/-- The callback URL of a client is one of the web. -/
def HasWebUrl (client : Client) : Prop :=
  ∃ s, client.callbackUrl = .ok (.text s) ∧ IsWebText s

/-- A response can be trusted, and carries something. -/
structure Acceptable (client : Client) (store : SessionStore) (e : Exchange) : Prop where
  /-- The ID token is a token. -/
  idToken : ∀ token, ProtocolParameter.idToken.value? e.parameters = some token →
    ∃ parsed, ParsedToken.ofText token = .ok parsed
  /-- The access token has a type and a sensible lifetime. -/
  accessToken : (ProtocolParameter.accessToken.value? e.parameters).isSome = true →
    HasUsableToken e.parameters
  /-- A provider that names itself in responses is the right one. -/
  issuer : client.metadata.issuerInResponses = true →
    ProtocolParameter.issuer.value? e.parameters = some client.metadata.issuer
  /-- The state is the one that the session of the request holds. -/
  state : client.settings.withState = true →
    ∃ s, store.Holds e client.stateAttribute (.text s)
      ∧ ProtocolParameter.state.value? e.parameters = some s
  /-- There is something to carry. -/
  given : (ProtocolParameter.code.value? e.parameters).isSome = true
    ∨ (ProtocolParameter.idToken.value? e.parameters).isSome = true
    ∨ (ProtocolParameter.accessToken.value? e.parameters).isSome = true

/-- Credentials carry what a request gives. -/
structure Carries (parameters : Parameters) (c : Credentials) : Prop where
  code : c.code = Value.ofText? (ProtocolParameter.code.value? parameters)
  idToken : c.idToken = Value.ofText? (ProtocolParameter.idToken.value? parameters)
  accessToken : c.accessToken.map AccessToken.parts = givenToken parameters

/-- What is to become of a request that is no logout. -/
inductive Verdict (client : Client) (store : SessionStore) (e : Exchange) :
    ExtractionResult → Prop where
  /-- There is no callback URL of the web, or a parameter is repeated. -/
  | unusable (reason : String) (h : ¬ HasWebUrl client ∨ ¬ Unrepeated e.parameters) :
      Verdict client store e (.fatal reason)
  /-- The provider reports an error. -/
  | refused (error : ErrorObject) (url : HasWebUrl client) (once : Unrepeated e.parameters)
      (h : AuthenticationResponse.givenError e.parameters = some error) :
      Verdict client store e (.noCredentials error)
  /-- The response can be trusted. -/
  | accepted (c : Credentials) (url : HasWebUrl client) (once : Unrepeated e.parameters)
      (success : AuthenticationResponse.givenError e.parameters = none)
      (h : Acceptable client store e) (carries : Carries e.parameters c) :
      Verdict client store e (.credentials c)
  /-- The response cannot be trusted. -/
  | rejected (reason : String) (url : HasWebUrl client) (once : Unrepeated e.parameters)
      (success : AuthenticationResponse.givenError e.parameters = none)
      (h : ¬ Acceptable client store e) : Verdict client store e (.fatal reason)

/-- A request gets as far as its ID token, which is nested too deep. -/
structure MeetsDeepToken (client : Client) (e : Exchange) : Prop where
  url : HasWebUrl client
  once : Unrepeated e.parameters
  success : AuthenticationResponse.givenError e.parameters = none
  token : ∃ token, ProtocolParameter.idToken.value? e.parameters = some token
    ∧ NestedTooDeep token

/-! ## The judgement -/

theorem givenError_eq_none_iff {parameters : Parameters} :
    AuthenticationResponse.givenError parameters = none ↔
      ProtocolParameter.error.value? parameters = none := Option.map_eq_none_iff

/-- A parameter is given exactly if its value as text or null is not empty. -/
theorem truthy_ofText?_value? (p : ProtocolParameter) (parameters : Parameters) :
    (Value.ofText? (p.value? parameters)).truthy = (p.value? parameters).isSome := by
  cases hp : p.value? parameters with
  | none => rfl
  | some s => simpa [Value.ofText?, Value.truthy] using p.ne_empty_of_value? hp

theorem checkIssuer_eq_ok_iff {metadata : ProviderMetadata} {response : SuccessResponse} :
    checkIssuer metadata response = .ok () ↔
      (metadata.issuerInResponses = true → response.issuer = some metadata.issuer) := by
  unfold checkIssuer
  cases metadata.issuerInResponses <;> by_cases h : response.issuer = some metadata.issuer <;>
    simp [h]

/-- A state in text has to be returned. -/
theorem checkState_eq_ok_iff {expected : Option Value} {response : SuccessResponse}
    (htext : ∀ v, expected = some v → ∃ s, v = .text s) :
    checkState expected response = .ok () ↔
      ∃ s, expected = some (.text s) ∧ response.state = some s := by
  cases expected with
  | none => simp [checkState]
  | some v =>
    obtain ⟨s, rfl⟩ := htext v rfl
    have hfilter : (some (Value.text s)).filter (!·.isNull) = some (.text s) := rfl
    unfold checkState
    rw [hfilter]
    cases response.state with
    | none => simp
    | some t =>
      by_cases hst : s = t
      · simp [Value.display, hst]
      · simp [Value.display, hst, Ne.symm hst]

theorem create?_eq_some_iff {code idToken : Value} {token : Option AccessToken} {c : Credentials} :
    Credentials.create? code idToken token = some c ↔
      c.code = code ∧ c.idToken = idToken ∧ c.accessToken = token := by
  obtain ⟨code', idToken', token', hgiven⟩ := c
  unfold Credentials.create?
  constructor
  · intro h
    split at h
    · cases h
      exact ⟨rfl, rfl, rfl⟩
    · exact absurd h (by simp)
  · rintro ⟨rfl, rfl, rfl⟩
    rw [dif_pos hgiven]

theorem credentialsOf_eq_ok_iff {response : SuccessResponse} {c : Credentials} :
    credentialsOf response = .ok c ↔
      c.code = Value.ofText? response.code ∧ c.idToken = Value.ofText? response.idToken
        ∧ c.accessToken = response.accessToken := by
  rw [← create?_eq_some_iff]
  unfold credentialsOf
  split
  · next c' hc => simp [hc]
  · next hc => simp [hc]

/-- A response that can be trusted carries credentials. -/
theorem exists_carries {client : Client} {store : SessionStore} {e : Exchange}
    (h : Acceptable client store e) : ∃ c, Carries e.parameters c := by
  obtain ⟨token, htoken⟩ := AuthenticationResponse.exists_token h.accessToken
  have hsome : token.isSome = (ProtocolParameter.accessToken.value? e.parameters).isSome := by
    rw [← Option.isSome_map, htoken, givenToken, Option.isSome_map]
  have hgiven : ((Value.ofText? (ProtocolParameter.code.value? e.parameters)).truthy
      || (Value.ofText? (ProtocolParameter.idToken.value? e.parameters)).truthy
      || token.isSome) = true := by
    rw [truthy_ofText?_value?, truthy_ofText?_value?, hsome]
    rcases h.given with hcode | hid | haccess
    · simp [hcode]
    · simp [hid]
    · simp [haccess]
  exact ⟨⟨_, _, token, hgiven⟩, rfl, rfl, htoken⟩

/-- Credentials are made of something that is given. -/
theorem given_of_carries {parameters : Parameters} {c : Credentials} (h : Carries parameters c) :
    (ProtocolParameter.code.value? parameters).isSome = true
      ∨ (ProtocolParameter.idToken.value? parameters).isSome = true
      ∨ (ProtocolParameter.accessToken.value? parameters).isSome = true := by
  have hsome : c.accessToken.isSome = (ProtocolParameter.accessToken.value? parameters).isSome := by
    rw [← Option.isSome_map, h.accessToken, givenToken, Option.isSome_map]
  have hgiven := c.some_given
  rw [h.code, h.idToken, truthy_ofText?_value?, truthy_ofText?_value?, hsome, Bool.or_eq_true,
    Bool.or_eq_true, or_assoc] at hgiven
  exact hgiven

variable {client : Client} {store : SessionStore} {e : Exchange}

/-- A success response is trusted if each check passes; it is never taken for an error. -/
theorem judgeSuccess_eq_ok_iff {response : SuccessResponse} {login : Login}
    (htext : ∀ v, store.get? e client.stateAttribute = some v → ∃ s, v = .text s) :
    judgeSuccess client store e response = .ok login ↔
      (client.metadata.issuerInResponses = true → response.issuer = some client.metadata.issuer)
        ∧ (client.settings.withState = true →
            ∃ s, store.Holds e client.stateAttribute (.text s) ∧ response.state = some s)
        ∧ ∃ c, credentialsOf response = .ok c ∧ login = .succeeded c := by
  have hcarry : (credentialsOf response >>= fun c => .ok (.succeeded c)) = .ok login ↔
      ∃ c, credentialsOf response = .ok c ∧ login = .succeeded c := by
    rw [bind_eq_ok_iff]
    simp only [Except.ok.injEq, eq_comm]
  unfold judgeSuccess
  rw [check_bind_eq_ok_iff, checkIssuer_eq_ok_iff]
  refine and_congr_right fun _ => ?_
  split
  · next hswitch =>
    rw [check_bind_eq_ok_iff, checkState_eq_ok_iff htext]
    simp only [SessionStore.get?_eq_some_iff, hswitch, forall_const]
    exact and_congr_right fun _ => hcarry
  · next hswitch =>
    simp only [hswitch, Bool.false_eq_true, false_implies, true_and]
    exact hcarry

/-- A response is read at a callback URL in text. -/
theorem responseOf_eq_ok_iff {parameters : Parameters} {response : AuthenticationResponse}
    (hw : client.settings.callbackUrl.IsOptionalText) :
    responseOf client parameters = .ok response ↔
      ∃ s, client.callbackUrl = .ok (.text s)
        ∧ AuthenticationResponse.parse (.text s) parameters = .ok response := by
  unfold responseOf
  rw [bind_eq_ok_iff]
  simp only [mapError_eq_ok_iff]
  constructor
  · rintro ⟨url, hurl, hparse⟩
    rcases Client.callbackUrl_cases hw with ⟨s, hs⟩ | ⟨cause, hcause⟩
    · rw [hs] at hurl
      obtain rfl := Except.ok.inj hurl
      exact ⟨s, hs, hparse⟩
    · rw [hcause] at hurl
      exact absurd hurl (by simp)
  · rintro ⟨s, hs, hparse⟩
    exact ⟨.text s, hs, hparse⟩

theorem responseOf_fault_iff {parameters : Parameters} {cause : Fault}
    (hw : client.settings.callbackUrl.IsOptionalText) :
    responseOf client parameters = .error (.fault cause) ↔
      ∃ s, client.callbackUrl = .ok (.text s)
        ∧ AuthenticationResponse.parse (.text s) parameters = .error (.fault cause) := by
  unfold responseOf
  rw [bind_eq_error_iff]
  simp only [mapError_map_eq_fault_iff, mapError_eq_ok_iff]
  rcases Client.callbackUrl_cases hw with ⟨s, hs⟩ | ⟨cause', hcause⟩
  · simp [hs]
  · simp [hcause]

/-- **A login succeeds exactly if the request is usable, reports no error and can be trusted.** -/
theorem judge_eq_succeeded_iff {c : Credentials}
    (hw : client.settings.callbackUrl.IsOptionalText)
    (htext : ∀ v, store.get? e client.stateAttribute = some v → ∃ s, v = .text s) :
    judge client store e = .ok (.succeeded c) ↔
      HasWebUrl client ∧ Unrepeated e.parameters
        ∧ AuthenticationResponse.givenError e.parameters = none
        ∧ Acceptable client store e ∧ Carries e.parameters c := by
  unfold judge
  rw [bind_eq_ok_iff]
  simp only [responseOf_eq_ok_iff hw, givenError_eq_none_iff]
  constructor
  · rintro ⟨response, ⟨s, hs, hparse⟩, hjudge⟩
    cases response with
    | error response => exact absurd hjudge (by simp)
    | success response =>
      rw [mapError_eq_ok_iff, judgeSuccess_eq_ok_iff htext] at hjudge
      obtain ⟨hissuer, hstate, c', hc, hlogin⟩ := hjudge
      obtain rfl := Login.succeeded.inj hlogin
      obtain ⟨hweb, honce, hnone, hid, haccess, -, hi, hst, hcode, -⟩ :=
        AuthenticationResponse.parse_eq_success_iff.1 hparse
      obtain ⟨hgiven, hread⟩ := AuthenticationResponse.idToken_eq_ok_iff.1 hid
      obtain ⟨htoken, husable⟩ := AuthenticationResponse.accessToken_eq_ok_iff.1 haccess
      obtain ⟨hcc, hci, hca⟩ := credentialsOf_eq_ok_iff.1 hc
      have hcarries : Carries e.parameters c :=
        ⟨by rw [hcc, hcode], by rw [hci, hgiven], by rw [hca, htoken]⟩
      rw [hi] at hissuer
      rw [hst] at hstate
      rw [hgiven] at hread
      exact ⟨⟨s, hs, hweb⟩, honce, hnone,
        ⟨hread, husable, hissuer, hstate, given_of_carries hcarries⟩, hcarries⟩
  · rintro ⟨⟨s, hs, hweb⟩, honce, hnone, hacc, hcarries⟩
    have hid : AuthenticationResponse.idToken e.parameters
        = .ok (ProtocolParameter.idToken.value? e.parameters) :=
      AuthenticationResponse.idToken_eq_ok_iff.2 ⟨rfl, hacc.idToken⟩
    have haccess : AuthenticationResponse.accessToken e.parameters = .ok c.accessToken :=
      AuthenticationResponse.accessToken_eq_ok_iff.2 ⟨hcarries.accessToken, hacc.accessToken⟩
    let response : SuccessResponse := {
      redirectUri := .text s
      issuer := ProtocolParameter.issuer.value? e.parameters
      state := ProtocolParameter.state.value? e.parameters
      code := ProtocolParameter.code.value? e.parameters
      idToken := ProtocolParameter.idToken.value? e.parameters
      accessToken := c.accessToken
      sessionState := ProtocolParameter.sessionState.value? e.parameters }
    refine ⟨.success response, ⟨s, hs, ?_⟩, ?_⟩
    · exact AuthenticationResponse.parse_eq_success_iff.2
        ⟨hweb, honce, hnone, hid, haccess, rfl, rfl, rfl, rfl, rfl⟩
    · rw [mapError_eq_ok_iff, judgeSuccess_eq_ok_iff htext]
      exact ⟨hacc.issuer, hacc.state, c,
        credentialsOf_eq_ok_iff.2 ⟨hcarries.code, hcarries.idToken, rfl⟩, rfl⟩

/-- A usable request that reports an error is refused, whatever else it holds. -/
theorem judge_of_givenError {error : ErrorObject} (hurl : HasWebUrl client)
    (honce : Unrepeated e.parameters)
    (hgiven : AuthenticationResponse.givenError e.parameters = some error) :
    judge client store e = .ok (.refused error) := by
  obtain ⟨s, hs, hweb⟩ := hurl
  let response : ErrorResponse := {
    redirectUri := .text s
    error := error
    state := ProtocolParameter.state.value? e.parameters
    issuer := ProtocolParameter.issuer.value? e.parameters }
  have hparse : AuthenticationResponse.parse (.text s) e.parameters = .ok (.error response) :=
    AuthenticationResponse.parse_eq_error_iff.2 ⟨hweb, honce, hgiven, rfl, rfl, rfl⟩
  simp only [judge, responseOf, hs, mapError_ok, ok_bind, hparse, pure_eq_ok, response]

/-- A login is refused exactly if the request is usable and reports an error. -/
theorem judge_eq_refused_iff {error : ErrorObject}
    (hw : client.settings.callbackUrl.IsOptionalText)
    (htext : ∀ v, store.get? e client.stateAttribute = some v → ∃ s, v = .text s) :
    judge client store e = .ok (.refused error) ↔
      HasWebUrl client ∧ Unrepeated e.parameters
        ∧ AuthenticationResponse.givenError e.parameters = some error := by
  refine ⟨fun h => ?_, fun ⟨hurl, honce, hgiven⟩ => judge_of_givenError hurl honce hgiven⟩
  rw [judge, bind_eq_ok_iff] at h
  obtain ⟨response, hread, hjudge⟩ := h
  obtain ⟨s, hs, hparse⟩ := (responseOf_eq_ok_iff hw).1 hread
  cases response with
  | error response =>
    obtain rfl := Login.refused.inj (Except.ok.inj hjudge)
    obtain ⟨hweb, honce, hgiven, -⟩ := AuthenticationResponse.parse_eq_error_iff.1 hparse
    exact ⟨⟨s, hs, hweb⟩, honce, hgiven⟩
  | success response =>
    rw [mapError_eq_ok_iff, judgeSuccess_eq_ok_iff htext] at hjudge
    obtain ⟨-, -, c, -, hlogin⟩ := hjudge
    exact absurd hlogin (by simp)

/-- A login is a fault exactly if the request gets as far as an ID token that is nested too deep. -/
theorem judge_fault_iff {cause : Fault} (hw : client.settings.callbackUrl.IsOptionalText) :
    judge client store e = .error (.fault cause) ↔
      cause = .tooDeep ∧ MeetsDeepToken client e := by
  unfold judge
  rw [bind_eq_error_iff, responseOf_fault_iff hw]
  constructor
  · rintro (⟨s, hs, hparse⟩ | ⟨response, -, hjudge⟩)
    · obtain ⟨rfl, hweb, honce, hnone, hdeep⟩ := AuthenticationResponse.parse_fault_iff.1 hparse
      exact ⟨rfl, ⟨s, hs, hweb⟩, honce, givenError_eq_none_iff.2 hnone, hdeep⟩
    · cases response with
      | error response => exact absurd hjudge (by simp)
      | success response => exact absurd hjudge mapError_refused_ne_fault
  · rintro ⟨rfl, ⟨s, hs, hweb⟩, honce, hnone, hdeep⟩
    exact Or.inl ⟨s, hs, AuthenticationResponse.parse_fault_iff.2
      ⟨rfl, hweb, honce, givenError_eq_none_iff.1 hnone, hdeep⟩⟩

/-- A request that is judged without a fault does not meet an ID token that is nested too deep. -/
theorem not_meetsDeepToken_of_judge (store : SessionStore)
    (hw : client.settings.callbackUrl.IsOptionalText)
    (h : judge client store e ≠ .error (.fault .tooDeep)) : ¬ MeetsDeepToken client e :=
  fun hdeep => h ((judge_fault_iff hw).2 ⟨rfl, hdeep⟩)

/-! ## The result -/

/-- **A request that is no logout gets its verdict exactly if it does not meet an ID token that is
    nested too deep.** -/
theorem extract_verdict_iff {around : Token.Surroundings} {site : Site}
    (hw : client.settings.WellTyped)
    (hlogin : e.parameterNamed? client.settings.logoutEndpointParameter = .ok none)
    (htext : ∀ v, site.sessions.store.get? e client.stateAttribute = some v → ∃ s, v = .text s) :
    (∃ result, (extract client around site e).result = .ok result
      ∧ Verdict client site.sessions.store e result) ↔ ¬ MeetsDeepToken client e := by
  rw [extract_of_login hlogin]
  cases hjudge : judge client site.sessions.store e with
  | ok login =>
    have hshallow : ¬ MeetsDeepToken client e :=
      not_meetsDeepToken_of_judge site.sessions.store hw.callbackUrl (by simp [hjudge])
    refine iff_of_true ?_ hshallow
    cases login with
    | succeeded c =>
      obtain ⟨hurl, honce, hnone, hacc, hcarries⟩ :=
        (judge_eq_succeeded_iff hw.callbackUrl htext).1 hjudge
      exact ⟨_, rfl, .accepted c hurl honce hnone hacc hcarries⟩
    | refused error =>
      obtain ⟨hurl, honce, hgiven⟩ := (judge_eq_refused_iff hw.callbackUrl htext).1 hjudge
      exact ⟨_, rfl, .refused error hurl honce hgiven⟩
  | error failure =>
    cases failure with
    | fault cause =>
      have hdeep : MeetsDeepToken client e := ((judge_fault_iff hw.callbackUrl).1 hjudge).2
      refine iff_of_false ?_ (not_not_intro hdeep)
      rintro ⟨result, hok, -⟩
      exact absurd hok (by simp [resultOf])
    | refused reason =>
      have hshallow : ¬ MeetsDeepToken client e :=
        not_meetsDeepToken_of_judge site.sessions.store hw.callbackUrl (by simp [hjudge])
      refine iff_of_true ⟨_, rfl, ?_⟩ hshallow
      -- every way to be judged otherwise is excluded by its own equivalence
      by_cases husable : HasWebUrl client ∧ Unrepeated e.parameters
      · obtain ⟨hurl, honce⟩ := husable
        cases hgiven : AuthenticationResponse.givenError e.parameters with
        | some error =>
          rw [(judge_eq_refused_iff hw.callbackUrl htext).2 ⟨hurl, honce, hgiven⟩] at hjudge
          exact absurd hjudge (by simp)
        | none =>
          refine .rejected _ hurl honce hgiven fun hacc => ?_
          obtain ⟨c, hcarries⟩ := exists_carries hacc
          rw [(judge_eq_succeeded_iff hw.callbackUrl htext).2
            ⟨hurl, honce, hgiven, hacc, hcarries⟩] at hjudge
          exact absurd hjudge (by simp)
      · exact .unusable _ (Classical.not_and_iff_not_or_not.1 husable)

/-! ## A client at work -/

/-- A client that checks states. -/
def exampleClient : Client where
  settings := { callbackUrl := .text "https://rp/cb" }
  metadata := { issuer := "https://idp" }

theorem wellTyped_exampleClient : exampleClient.settings.WellTyped :=
  { Settings.wellTyped_default with callbackUrl := Or.inr ⟨_, rfl⟩ }

theorem hasWebUrl_exampleClient : HasWebUrl exampleClient :=
  ⟨"https://rp/cb", rfl, ⟨"https", "rp", "/cb", "", ""⟩, rfl, Or.inr rfl, by decide⟩

/-- A site with one session, which waits for an answer. -/
def exampleSite : Site where
  sessions := {
    store := {
      cookieName := "session"
      sessions := [("a", [("OidcClient#oidcStateAttribute", .text "s")])]
      supply := ⟨toString, 0⟩ }
    indexes := []
    handler := .recording [] [] }
  verifier := .fixed (.error "") 0
  remote := ⟨[], []⟩

/-- The answer to the login of a browser. -/
def exampleAnswer : Exchange where
  parameters := [("code", ["c"]), ("state", ["s"])]
  cookies := [("session", "a")]

/-- An answer with an ID token that is nested too deep. -/
def deepAnswer : Exchange := { parameters := [("id_token", [deepToken 5000])] }

theorem verdict_exampleAnswer :
    ∃ result, (extract exampleClient ⟨Key.verify, 0⟩ exampleSite exampleAnswer).result = .ok result
      ∧ Verdict exampleClient exampleSite.sessions.store exampleAnswer result := by
  have hshallow : ¬ MeetsDeepToken exampleClient exampleAnswer := by
    rintro ⟨-, -, -, token, htoken, -⟩
    have hnone : ProtocolParameter.idToken.value? exampleAnswer.parameters = none := rfl
    rw [hnone] at htoken
    exact absurd htoken (by simp)
  refine (extract_verdict_iff wellTyped_exampleClient rfl fun v hv => ?_).2 hshallow
  exact ⟨"s", (Option.some.inj hv).symm⟩

/-- An answer may end with a fault instead of a result. -/
theorem extract_deepAnswer :
    exampleClient.settings.WellTyped
      ∧ deepAnswer.parameterNamed? exampleClient.settings.logoutEndpointParameter = .ok none
      ∧ exampleSite.sessions.store.get? deepAnswer exampleClient.stateAttribute = none
      ∧ ¬ ∃ result, (extract exampleClient ⟨Key.verify, 0⟩ exampleSite deepAnswer).result
          = .ok result := by
  refine ⟨wellTyped_exampleClient, rfl, rfl, ?_⟩
  have htoken : ProtocolParameter.idToken.value? deepAnswer.parameters = some (deepToken 5000) :=
    Option.filter_eq_some_iff.2 ⟨rfl, bne_iff_ne.2 (deepToken_ne_empty 5000)⟩
  have honce : Unrepeated deepAnswer.parameters := by
    intro p
    cases p <;> decide
  have hjudge : judge exampleClient exampleSite.sessions.store deepAnswer
      = .error (.fault .tooDeep) :=
    (judge_fault_iff wellTyped_exampleClient.callbackUrl).2
      ⟨rfl, hasWebUrl_exampleClient, honce, rfl, _, htoken, nestedTooDeep_deepToken (by decide)⟩
  have hmarker : deepAnswer.parameterNamed? exampleClient.settings.logoutEndpointParameter
      = .ok none := rfl
  rintro ⟨result, hok⟩
  simp only [extract, hmarker, hjudge] at hok
  exact absurd hok (by simp [resultOf])

end RelyingParty.Callback
