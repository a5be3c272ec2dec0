import RelyingParty.Proofs.Callback.Faults

set_option autoImplicit false

/-! # Logout tokens that are verified, and others

A client that does not verify logout tokens believes what is written in them. It reads them on a way
of its own: the header and the payload of the text are decoded without a look at keys. A client that
verifies them gets its claims from the validator, which decodes the bytes it checked the signature
of.

Both ways lead to the same claims, `ParsedToken.ofText_of_validate`, so the client that believes
more does all that the client that verifies does: `carriedOut_without_validation`. -/

namespace RelyingParty

/-- The client, with logout tokens verified or not. -/
def Client.withLogoutValidation (client : Client) (strict : Bool) : Client :=
  { client with settings := { client.settings with logoutValidation := strict } }

/-! ## Two ways to the claims -/

/-- A token of three segments that is accepted is read without verifying it, and has the same
    claims. -/
theorem ParsedToken.ofText_of_validate {v : Token.KeyValidator} {check : Key.Check} {now : Int}
    {remote : Remote} {token : String} {nonce : Value} {claims : Token.Claims}
    (three : segmentCount token = 3)
    (h : (v.validate check now remote (.text token) nonce).1 = .ok claims) :
    ∃ header, ParsedToken.ofText token = .ok ⟨token, header, claims, false⟩ := by
  obtain ⟨keys, -, hjudge⟩ := Token.KeyValidator.validate_eq_ok_iff.1 h
  obtain ⟨bytes, compact, name, hbytes, hparts, -, -, hclaims, -, -⟩ :=
    Token.judge_eq_ok_iff.1 hjudge
  obtain rfl : Text.utf8 token = bytes := Except.ok.inj hbytes
  exact ⟨compact.header, ParsedToken.ofText_of_parts three hparts hclaims⟩

namespace Logout

variable {client : Client} {around : Token.Surroundings} {site : Site} {e : Exchange}
  {v : Token.KeyValidator} {token : String} {sid : Value}

/-- A verdict of the keys has the claims that the validator accepts. -/
theorem verdictOn_eq_ok_iff (hverifier : site.verifier = .keys v)
    {claims : List (Value × Value)} :
    verdictOn around site token = .ok (.dict claims) ↔
      (v.validate around.check around.now site.remote (.text token) .null).1 = .ok claims := by
  have hnull : Value.ofText? none = .null := rfl
  rw [Callback.verdictOn_keys hverifier, map_eq_ok_iff, hnull]
  constructor
  · rintro ⟨accepted, hvalidate, hdict⟩
    rw [hvalidate, Value.dict.inj hdict]
  · intro hvalidate
    exact ⟨claims, hvalidate, rfl⟩

/-- The claims of a signed token that is accepted are those that are read. -/
theorem claims_of_verdictOn (hverifier : site.verifier = .keys v) {parsed : ParsedToken}
    (hread : ParsedToken.ofText token = .ok parsed) (hsigned : parsed.encrypted = false)
    {claims : List (Value × Value)} (haccepted : verdictOn around site token = .ok (.dict claims)) :
    parsed.claims = claims := by
  obtain ⟨header, hsame⟩ := ParsedToken.ofText_of_validate
    (ParsedToken.segmentCount_of_signed hread hsigned) ((verdictOn_eq_ok_iff hverifier).1 haccepted)
  rw [Except.ok.inj (hread.symm.trans hsame)]

/-! ## Two modes -/

/-- A logout that is carried out with its token verified has a token that is accepted. -/
theorem accepted_of_carriedOut (hverifier : site.verifier = .keys v)
    (hlogout : IsBackChannel client e token) (hstrict : client.settings.logoutValidation = true)
    {response : ImmediateResponse}
    (h : (Callback.extract client around site e).result = .ok (.respond response))
    (hstatus : response.status = 200) :
    segmentCount token = 3 ∧ ∃ claims,
      (v.validate around.check around.now site.remote (.text token) .null).1 = .ok claims := by
  obtain ⟨⟨marker, hmarker⟩, htoken⟩ := hlogout
  rw [(extract_of_token around site hmarker htoken).1, map_eq_ok_iff] at h
  obtain ⟨carried, hreply, hrespond⟩ := h
  obtain rfl : carried = response := ExtractionResult.respond.inj hrespond
  obtain ⟨-, sid, sessions, hsession, -⟩ := reply_carriedOut_iff.1 ⟨hreply, hstatus⟩
  have hauthorised := (session_decide_eq_ok_iff
    (Callback.givesMappings_verdictOn hverifier token)).1 hsession
  cases hauthorised with
  | verified parsed claims _ hread hsigned _ haccepted _ =>
    exact ⟨ParsedToken.segmentCount_of_signed hread hsigned, claims,
      (verdictOn_eq_ok_iff hverifier).1 haccepted⟩
  | unverified _ _ _ _ hweak _ _ => exact absurd (hstrict.symm.trans hweak) (by simp)

/-- What a verified token may do, it may do without being verified. -/
theorem Authorised.without_validation (hverifier : site.verifier = .keys v)
    (h : Authorised (client.withLogoutValidation true) (verdictOn around site token) token sid) :
    Authorised (client.withLogoutValidation false) (verdictOn around site token) token sid := by
  have htext : sid = .null ∨ sid.isText = true := h.isText
  cases h with
  | verified parsed claims _ hread hsigned _ haccepted hends =>
    have hclaims : parsed.claims = claims := claims_of_verdictOn hverifier hread hsigned haccepted
    have hnamed : sid = Value.fieldD parsed.claims "sid" := by
      rw [hclaims, Value.fieldD, hends.session]
      rfl
    exact .unverified parsed sid hread hsigned rfl hnamed htext
  | unverified _ _ _ _ hweak _ _ => exact absurd hweak (by simp [Client.withLogoutValidation])

/-- A session that is to be ended by a verified token is to be ended by the same token if it is not
    verified. -/
theorem session_decide_without_validation (hverifier : site.verifier = .keys v)
    (h : (decide (client.withLogoutValidation true) around site token).session = .ok sid) :
    (decide (client.withLogoutValidation false) around site token).session = .ok sid :=
  session_decide_of_authorised (.without_validation hverifier
    ((session_decide_eq_ok_iff (Callback.givesMappings_verdictOn hverifier token)).1 h))

/-- A decision that is carried out is carried out without verifying the token. -/
theorem reply_without_validation (hverifier : site.verifier = .keys v)
    {response : ImmediateResponse}
    (h : (decide (client.withLogoutValidation true) around site token).reply.response
      = .ok response) (hstatus : response.status = 200) :
    (decide (client.withLogoutValidation false) around site token).reply.response = .ok response
      ∧ (decide (client.withLogoutValidation false) around site token).reply.site.sessions
        = (decide (client.withLogoutValidation true) around site token).reply.site.sessions := by
  obtain ⟨rfl, sid, sessions, hsession, hback⟩ := reply_carriedOut_iff.1 ⟨h, hstatus⟩
  have hstrict := reply_of_ok hsession hback
  rw [sessions_decide] at hback
  have hweak := reply_of_ok (session_decide_without_validation hverifier hsession)
    (sessions_decide.symm ▸ hback)
  exact ⟨hweak.1, hweak.2.trans hstrict.2.symm⟩

/-- Whether logout tokens are verified makes no difference to other requests. -/
theorem extract_withLogoutValidation (h : ¬ ∃ token, IsBackChannel client e token) :
    Callback.extract (client.withLogoutValidation true) around site e
      = Callback.extract (client.withLogoutValidation false) around site e := by
  have hmarker (strict : Bool) :
      (client.withLogoutValidation strict).settings.logoutEndpointParameter
        = client.settings.logoutEndpointParameter := rfl
  cases hgiven : e.parameterNamed? client.settings.logoutEndpointParameter with
  | error cause => simp only [Callback.extract, hmarker, hgiven]
  | ok marker =>
    cases marker with
    | none =>
      simp only [Callback.extract, hmarker, hgiven]
      rfl
    | some marker =>
      cases htoken : e.parameter? tokenParameter with
      | none =>
        simp only [Callback.extract, hmarker, hgiven, answer, htoken]
        rfl
      | some token => exact absurd ⟨token, ⟨marker, hgiven⟩, htoken⟩ h

/-- **A client that does not verify logout tokens carries out what one that does would carry out.**
    A token of three segments that a validator accepts is read with the claims that were accepted,
    and a logout that is carried out with the token verified is carried out as well without: the
    response, the sessions and the indexes are the same. -/
theorem carriedOut_without_validation (client : Client) (around : Token.Surroundings) (site : Site)
    {v : Token.KeyValidator} (hverifier : site.verifier = .keys v) :
    (∀ (token : String) (nonce : Value) (claims : Token.Claims), segmentCount token = 3 →
      (v.validate around.check around.now site.remote (.text token) nonce).1 = .ok claims →
        ∃ header, ParsedToken.ofText token = .ok ⟨token, header, claims, false⟩)
      ∧ ∀ (e : Exchange) (response : ImmediateResponse),
        (Callback.extract (client.withLogoutValidation true) around site e).result
          = .ok (.respond response) → response.status = 200 →
        (Callback.extract (client.withLogoutValidation false) around site e).result
            = .ok (.respond response)
          ∧ (Callback.extract (client.withLogoutValidation false) around site e).site.sessions
            = (Callback.extract (client.withLogoutValidation true) around site e).site.sessions := by
  refine ⟨fun token nonce claims three h => ParsedToken.ofText_of_validate three h, ?_⟩
  intro e response hstrict hstatus
  by_cases hlogout : ∃ token, IsBackChannel client e token
  · obtain ⟨token, ⟨marker, hmarker⟩, htoken⟩ := hlogout
    have hextract (strict : Bool) := extract_of_token around site
      (show e.parameterNamed? (client.withLogoutValidation strict).settings.logoutEndpointParameter
        = .ok (some marker) from hmarker) htoken
    obtain ⟨hresult, hsite⟩ := hextract true
    obtain ⟨hresult', hsite'⟩ := hextract false
    rw [hresult, map_eq_ok_iff] at hstrict
    obtain ⟨carried, hreply, hrespond⟩ := hstrict
    obtain rfl : carried = response := ExtractionResult.respond.inj hrespond
    obtain ⟨hweak, hsessions⟩ := reply_without_validation hverifier hreply hstatus
    rw [hresult', hsite', hsite, hweak]
    exact ⟨rfl, hsessions⟩
  · rw [← extract_withLogoutValidation hlogout]
    exact ⟨hstrict, rfl⟩

/-! ## A token that is in order -/

/-- A token of the issuer that names the end of the session `p`. -/
def signedLogoutToken : String :=
  "eyJhbGciOiJIUzI1NiJ9.eyJpc3MiOiJpIiwiYXVkIjoiYyIsInNpZCI6InAiLCJldmVudHMiOnsiaHR0cDovL3NjaGVt"
    ++ "YXMub3BlbmlkLm5ldC9ldmVudC9iYWNrY2hhbm5lbC1sb2dvdXQiOnt9fX0"
    ++ ".TEyiDbWNveUNeWs_mPmynVGySo2TE52GGsa3vQbCze0"

/-- Such a token is accepted, and its logout is carried out with the token verified and without. -/
theorem carriedOut_signedLogoutToken :
    (Callback.keyedSite Token.exampleRemote).verifier = .keys Token.patientValidator
      ∧ (∃ claims, segmentCount signedLogoutToken = 3
        ∧ (Token.patientValidator.validate Key.verify 22 Token.exampleRemote
          (.text signedLogoutToken) .null).1 = .ok claims
        ∧ ∃ header, ParsedToken.ofText signedLogoutToken
          = .ok ⟨signedLogoutToken, header, claims, false⟩)
      ∧ ∃ response, (Callback.extract (exampleClient.withLogoutValidation true) ⟨Key.verify, 22⟩
          (Callback.keyedSite Token.exampleRemote) (exampleRequest signedLogoutToken)).result
          = .ok (.respond response) ∧ response.status = 200
        ∧ (Callback.extract (exampleClient.withLogoutValidation false) ⟨Key.verify, 22⟩
          (Callback.keyedSite Token.exampleRemote) (exampleRequest signedLogoutToken)).result
          = .ok (.respond response) := by
  obtain ⟨hclaims, hagree⟩ := carriedOut_without_validation exampleClient ⟨Key.verify, 22⟩
    (Callback.keyedSite Token.exampleRemote) rfl
  obtain ⟨result, hresult, hcarriedOut⟩ := exists_ok_of_toOption
    (x := (Callback.extract (exampleClient.withLogoutValidation true) ⟨Key.verify, 22⟩
      (Callback.keyedSite Token.exampleRemote) (exampleRequest signedLogoutToken)).result)
    (p := fun result => match result with
      | .respond response => response.status == 200
      | _ => false) (by decide +kernel)
  cases result with
  | respond response =>
    have hstatus : response.status = 200 := by simpa using hcarriedOut
    have hlogout : IsBackChannel (exampleClient.withLogoutValidation true)
        (exampleRequest signedLogoutToken) signedLogoutToken := ⟨⟨"", rfl⟩, rfl⟩
    obtain ⟨three, claims, haccepted⟩ := accepted_of_carriedOut rfl hlogout rfl hresult hstatus
    exact ⟨rfl, ⟨claims, three, haccepted, hclaims _ _ _ three haccepted⟩, response, hresult,
      hstatus, (hagree _ response hresult hstatus).1⟩
  | _ => exact absurd hcarriedOut (by simp)

end Logout

end RelyingParty
