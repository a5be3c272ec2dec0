import RelyingParty.Callback.Response
import RelyingParty.Proofs.Token.Reading

set_option autoImplicit false

/-! # What a response takes to be read

A response is read in a fixed order: the callback URL, repeated parameters, the error, the ID token,
the access token. Each step is a statement about the parameters; `parse_eq_success_iff`,
`parse_eq_error_iff` and `parse_fault_iff` put them together. The three say when each kind of answer
comes about, and every other response is refused. -/

namespace RelyingParty

/-! ## Parameters -/

namespace ProtocolParameter

/-- A value of a parameter is never empty. -/
theorem ne_empty_of_value? {p : ProtocolParameter} {parameters : Parameters} {s : String}
    (h : p.value? parameters = some s) : s ≠ "" := by
  have hs := (Option.filter_eq_some_iff.1 h).2
  simpa using hs

end ProtocolParameter

/-- No parameter of the protocol has more than one value. -/
def Unrepeated (parameters : Parameters) : Prop :=
  ∀ p : ProtocolParameter, (p.values parameters).length ≤ 1

/-- The access token of a request is usable: it comes with a type, and its lifetime, if one is
    given, is a number that is not negative. -/
def HasUsableToken (parameters : Parameters) : Prop :=
  (ProtocolParameter.tokenType.value? parameters).isSome = true
    ∧ ∀ text, ProtocolParameter.expiresIn.value? parameters = some text →
        ∃ seconds, Integer.ofText? text = some seconds ∧ 0 ≤ seconds

/-- The access token a request gives, by its value, type, lifetime and scope. -/
def givenToken (parameters : Parameters) : Option (Value × Value × Value × Value) :=
  (ProtocolParameter.accessToken.value? parameters).map fun value =>
    (.text value, Value.ofText? (ProtocolParameter.tokenType.value? parameters),
      (((ProtocolParameter.expiresIn.value? parameters).bind Integer.ofText?).map Value.int).getD
        .null,
      Value.ofText? (ProtocolParameter.scope.value? parameters))

/-- An access token by its value, type, lifetime and scope. -/
def AccessToken.parts (t : AccessToken) : Value × Value × Value × Value :=
  (t.value, t.tokenType, t.expiresIn, t.scope)

/-- Text of the web as a URL. -/
def IsWebText (s : String) : Prop :=
  ∃ url, Url.split s = .ok url ∧ (url.scheme = "http" ∨ url.scheme = "https") ∧ url.authority ≠ ""

namespace AuthenticationResponse

/-! ## The checks -/

theorem isWeb_iff {url : Url} :
    url.isWeb = true ↔ (url.scheme = "http" ∨ url.scheme = "https") ∧ url.authority ≠ "" := by
  simp [Url.isWeb]

theorem not_isWebText_empty : ¬ IsWebText "" := by
  rintro ⟨url, hsplit, -, hauthority⟩
  have hempty : Url.split "" = .ok ⟨"", "", "", "", ""⟩ := rfl
  rw [hempty] at hsplit
  obtain rfl := Except.ok.inj hsplit
  exact hauthority rfl

/-- A callback URL in text passes exactly if it is one of the web. -/
theorem checkUrl_text_eq_ok_iff {s : String} : checkUrl (.text s) = .ok () ↔ IsWebText s := by
  by_cases hs : s = ""
  · subst hs
    simp [checkUrl, Value.truthy, not_isWebText_empty, bind, Except.bind]
  · cases hsplit : Url.split s with
    | error e =>
      simp [checkUrl, Value.truthy, hs, Url.isWebValue, hsplit, Except.map, bind,
        Except.bind, IsWebText]
    | ok url =>
      simp only [IsWebText, hsplit, Except.ok.injEq, exists_eq_left', ← isWeb_iff]
      cases hweb : url.isWeb <;>
        simp [checkUrl, Value.truthy, hs, Url.isWebValue, hsplit, hweb, Except.map,
          bind, Except.bind]

/-- A callback URL in text is refused if it does not pass. -/
theorem checkUrl_text_ne_fault {s : String} {cause : Fault} :
    checkUrl (.text s) ≠ .error (.fault cause) := by
  by_cases hs : s = ""
  · subst hs
    simp [checkUrl, Value.truthy, bind, Except.bind]
  · cases hsplit : Url.split s with
    | error e =>
      simp [checkUrl, Value.truthy, hs, Url.isWebValue, hsplit, Except.map, bind,
        Except.bind, Failure.map]
    | ok url =>
      cases hweb : url.isWeb <;>
        simp [checkUrl, Value.truthy, hs, Url.isWebValue, hsplit, hweb, Except.map,
          bind, Except.bind]

theorem checkRepetition_eq_ok_iff {parameters : Parameters} :
    checkRepetition parameters = .ok () ↔ Unrepeated parameters := by
  have hfind : ProtocolParameter.all.find? (·.isRepeated parameters) = none ↔
      Unrepeated parameters := by
    rw [List.find?_eq_none]
    constructor
    · intro h p
      have hp := h p (ProtocolParameter.mem_all p)
      simpa [ProtocolParameter.isRepeated] using hp
    · intro h p _
      simpa [ProtocolParameter.isRepeated] using h p
  rw [← hfind]
  unfold checkRepetition
  split
  · next p hp => simp [hp]
  · next hp => simp [hp]

/-! ## The tokens -/

/-- The ID token is taken over if it is a token. -/
theorem idToken_eq_ok_iff {parameters : Parameters} {given : Option String} :
    idToken parameters = .ok given ↔
      given = ProtocolParameter.idToken.value? parameters ∧
        ∀ token, given = some token → ∃ parsed, ParsedToken.ofText token = .ok parsed := by
  unfold idToken
  split
  · next hvalue =>
    rw [hvalue, Except.ok.injEq]
    constructor
    · rintro rfl
      exact ⟨rfl, fun token h => absurd h (by simp)⟩
    · rintro ⟨rfl, -⟩
      rfl
  · next token hvalue =>
    rw [hvalue]
    split
    · next parsed hparsed =>
      rw [Except.ok.injEq]
      constructor
      · rintro rfl
        refine ⟨rfl, fun token' h => ?_⟩
        obtain rfl := Option.some.inj h
        exact ⟨parsed, hparsed⟩
      · rintro ⟨rfl, -⟩
        rfl
    · next failure hparsed =>
      constructor
      · intro h
        exact absurd h (by simp)
      · rintro ⟨rfl, hread⟩
        obtain ⟨parsed, hok⟩ := hread token rfl
        rw [hparsed] at hok
        exact absurd hok (by simp)

/-- The ID token is a fault exactly if it is nested too deep. -/
theorem idToken_fault_iff {parameters : Parameters} {cause : Fault} :
    idToken parameters = .error (.fault cause) ↔
      cause = .tooDeep ∧ ∃ token, ProtocolParameter.idToken.value? parameters = some token
        ∧ NestedTooDeep token := by
  unfold idToken
  cases hvalue : ProtocolParameter.idToken.value? parameters with
  | none => simp
  | some token =>
    simp only [Option.some.injEq, exists_eq_left']
    rw [← ParsedToken.ofText_fault_iff]
    cases hparsed : ParsedToken.ofText token with
    | ok parsed => simp
    | error failure => cases failure <;> simp [Failure.map]

/-- The lifetime is the number that its text stands for. -/
theorem lifetime_eq_ok_iff {parameters : Parameters} {seconds : Option Int} :
    lifetime parameters = .ok seconds ↔
      seconds = (ProtocolParameter.expiresIn.value? parameters).bind Integer.ofText? ∧
        ∀ text, ProtocolParameter.expiresIn.value? parameters = some text →
          ∃ n, Integer.ofText? text = some n ∧ 0 ≤ n := by
  unfold lifetime
  split
  · next hvalue =>
    rw [hvalue, Except.ok.injEq]
    constructor
    · rintro rfl
      exact ⟨rfl, fun text h => absurd h (by simp)⟩
    · rintro ⟨rfl, -⟩
      rfl
  · next text hvalue =>
    simp only [hvalue, Option.some.injEq, forall_eq', Option.bind_some]
    cases hnumber : Integer.ofText? text with
    | none => simp
    | some n =>
      by_cases hn : n < 0
      · simp [hn]
      · simp [hn, Int.not_lt.1 hn, eq_comm]

/-- An access token is known by its parts. -/
theorem parts_inj {t t' : AccessToken} (h : t.parts = t'.parts) : t = t' := by
  obtain ⟨_, _, _, _, _, _⟩ := t
  obtain ⟨_, _, _, _, _, _⟩ := t'
  simp only [AccessToken.parts, Prod.mk.injEq] at h
  obtain ⟨rfl, rfl, rfl, rfl⟩ := h
  rfl

/-- With a value and a type there is an access token. -/
theorem exists_create_text {value tokenType : String} (hvalue : value ≠ "") (htype : tokenType ≠ "")
    (expiresIn scope : Value) :
    ∃ token, AccessToken.create (.text value) (.text tokenType) expiresIn scope = .ok token
      ∧ token.parts = (.text value, .text tokenType, expiresIn, scope) := by
  have hv : (Value.text value).truthy = true := by simpa [Value.truthy] using hvalue
  have ht : (Value.text tokenType).truthy = true := by simpa [Value.truthy] using htype
  exact ⟨⟨_, _, _, _, hv, ht⟩, by rw [AccessToken.create, dif_pos hv, dif_pos ht], rfl⟩

/-- A usable access token is one. -/
theorem exists_token {parameters : Parameters}
    (h : (ProtocolParameter.accessToken.value? parameters).isSome = true →
      HasUsableToken parameters) :
    ∃ token : Option AccessToken, token.map AccessToken.parts = givenToken parameters := by
  unfold givenToken
  cases hvalue : ProtocolParameter.accessToken.value? parameters with
  | none => exact ⟨none, rfl⟩
  | some value =>
    obtain ⟨htype, -⟩ := h (by rw [hvalue]; rfl)
    obtain ⟨tokenType, htokenType⟩ := Option.isSome_iff_exists.1 htype
    obtain ⟨token, -, hparts⟩ := exists_create_text (ProtocolParameter.ne_empty_of_value? hvalue)
      (ProtocolParameter.ne_empty_of_value? htokenType) _ _
    rw [htokenType]
    exact ⟨some token, congrArg some hparts⟩

/-- The access token is taken over if it is usable. -/
theorem accessToken_eq_ok_iff {parameters : Parameters} {token : Option AccessToken} :
    accessToken parameters = .ok token ↔
      token.map AccessToken.parts = givenToken parameters ∧
        ((ProtocolParameter.accessToken.value? parameters).isSome = true →
          HasUsableToken parameters) := by
  unfold accessToken givenToken HasUsableToken
  split
  · next hvalue =>
    rw [hvalue, Except.ok.injEq]
    constructor
    · rintro rfl
      exact ⟨rfl, fun h => absurd h (by simp)⟩
    · rintro ⟨htoken, -⟩
      exact (Option.map_eq_none_iff.1 htoken).symm
  · next value hvalue =>
    rw [hvalue]
    split
    · next htype =>
      rw [htype]
      simp
    · next tokenType htype =>
      rw [htype]
      have hv : value ≠ "" := ProtocolParameter.ne_empty_of_value? hvalue
      have ht : tokenType ≠ "" := ProtocolParameter.ne_empty_of_value? htype
      obtain ⟨made, hmade, hparts⟩ := exists_create_text hv ht
        ((((ProtocolParameter.expiresIn.value? parameters).bind Integer.ofText?).map Value.int).getD
          .null) (Value.ofText? (ProtocolParameter.scope.value? parameters))
      -- a value and a type are there, so the lifetime alone may stand in the way
      simp only [bind_eq_ok_iff, lifetime_eq_ok_iff, Option.isSome_some, true_and, forall_const,
        Option.map_some]
      constructor
      · rintro ⟨_, ⟨rfl, hlife⟩, hcreate⟩
        rw [hmade] at hcreate
        obtain rfl := Except.ok.inj hcreate
        exact ⟨congrArg some hparts, hlife⟩
      · rintro ⟨htoken, hlife⟩
        refine ⟨_, ⟨rfl, hlife⟩, ?_⟩
        obtain ⟨t, rfl, ht'⟩ := Option.map_eq_some_iff.1 htoken
        rw [hmade, parts_inj (ht'.trans hparts.symm)]
        rfl

/-! ## The response -/

/-- A response without an error is read exactly if its ID token is a token and its access token is
    usable. -/
theorem parse_eq_success_iff {s : String} {parameters : Parameters} {response : SuccessResponse} :
    parse (.text s) parameters = .ok (.success response) ↔
      IsWebText s ∧ Unrepeated parameters
        ∧ ProtocolParameter.error.value? parameters = none
        ∧ idToken parameters = .ok response.idToken
        ∧ accessToken parameters = .ok response.accessToken
        ∧ response.redirectUri = .text s
        ∧ response.issuer = ProtocolParameter.issuer.value? parameters
        ∧ response.state = ProtocolParameter.state.value? parameters
        ∧ response.code = ProtocolParameter.code.value? parameters
        ∧ response.sessionState = ProtocolParameter.sessionState.value? parameters := by
  unfold parse
  rw [check_bind_eq_ok_iff, checkUrl_text_eq_ok_iff, check_bind_eq_ok_iff, mapError_eq_ok_iff,
    checkRepetition_eq_ok_iff]
  refine and_congr_right fun _ => and_congr_right fun _ => ?_
  split
  · next code hcode => simp [hcode]
  · next hcode =>
    simp only [hcode, true_and, bind_eq_ok_iff, mapError_eq_ok_iff, pure_eq_ok, Except.ok.injEq,
      success.injEq]
    constructor
    · rintro ⟨id, hid, access, haccess, rfl⟩
      exact ⟨hid, haccess, rfl, rfl, rfl, rfl, rfl⟩
    · rintro ⟨hid, haccess, huri, hissuer, hstate, hcode', hsession⟩
      refine ⟨_, hid, _, haccess, ?_⟩
      rw [← huri, ← hissuer, ← hstate, ← hcode', ← hsession]

/-- The error of a response, if there is one. -/
def givenError (parameters : Parameters) : Option ErrorObject :=
  (ProtocolParameter.error.value? parameters).map fun code =>
    { code := .text code
      details := Value.ofText? (ProtocolParameter.errorDescription.value? parameters)
      uri := Value.ofText? (ProtocolParameter.errorUri.value? parameters) }

/-- A response with an error is read whatever else is in it. -/
theorem parse_eq_error_iff {s : String} {parameters : Parameters} {response : ErrorResponse} :
    parse (.text s) parameters = .ok (.error response) ↔
      IsWebText s ∧ Unrepeated parameters ∧ givenError parameters = some response.error
        ∧ response.redirectUri = .text s
        ∧ response.state = ProtocolParameter.state.value? parameters
        ∧ response.issuer = ProtocolParameter.issuer.value? parameters := by
  unfold parse givenError
  rw [check_bind_eq_ok_iff, checkUrl_text_eq_ok_iff, check_bind_eq_ok_iff, mapError_eq_ok_iff,
    checkRepetition_eq_ok_iff]
  refine and_congr_right fun _ => and_congr_right fun _ => ?_
  split
  · next code hcode =>
    rw [hcode, Option.map_some, Option.some.injEq, pure_eq_ok, Except.ok.injEq,
      AuthenticationResponse.error.injEq]
    constructor
    · rintro rfl
      exact ⟨rfl, rfl, rfl, rfl⟩
    · rintro ⟨herror, huri, hstate, hissuer⟩
      rw [herror, ← huri, ← hstate, ← hissuer]
  · next hcode => simp [hcode, bind_eq_ok_iff]

/-- Reading a response is a fault exactly if it gets as far as the ID token, which is nested too
    deep. -/
theorem parse_fault_iff {s : String} {parameters : Parameters} {cause : Fault} :
    parse (.text s) parameters = .error (.fault cause) ↔
      cause = .tooDeep ∧ IsWebText s ∧ Unrepeated parameters
        ∧ ProtocolParameter.error.value? parameters = none
        ∧ ∃ token, ProtocolParameter.idToken.value? parameters = some token
          ∧ NestedTooDeep token := by
  unfold parse
  rw [check_bind_eq_error_iff, check_bind_eq_error_iff, checkUrl_text_eq_ok_iff, mapError_eq_ok_iff,
    checkRepetition_eq_ok_iff]
  -- the steps before the ID token refuse, but never with a fault
  simp only [checkUrl_text_ne_fault, mapError_refused_ne_fault, false_or]
  cases hcode : ProtocolParameter.error.value? parameters with
  | some code => simp
  | none =>
    simp only [bind_eq_error_iff, idToken_fault_iff, mapError_refused_ne_fault, pure_eq_ok,
      false_or, true_and]
    constructor
    · rintro ⟨hweb, honce, ⟨rfl, hdeep⟩ | ⟨_, -, _, -, hfalse⟩⟩
      · exact ⟨rfl, hweb, honce, hdeep⟩
      · exact absurd hfalse (by simp)
    · rintro ⟨rfl, hweb, honce, hdeep⟩
      exact ⟨hweb, honce, Or.inl ⟨rfl, hdeep⟩⟩

end AuthenticationResponse

end RelyingParty
