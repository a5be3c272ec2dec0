import RelyingParty.Proofs.Callback.Classification
import RelyingParty.Proofs.Logout.Channels
import RelyingParty.Proofs.Token.Faults

set_option autoImplicit false

/-! # Callbacks that come to no result

A client with well-typed settings that verifies tokens by the keys of the provider gives a result
for every request, but for those in `ExtractionFault`: a token is nested too deep, a logout token
cannot be validated, or a shared index has no key for the session that a token names.
`verdict_and_result_iff` says that there are no others.

Most of them are in the hand of the provider, or of whoever answers in its place: it is enough that
its keys cannot be fetched. -/

namespace RelyingParty.Callback

open Token (KeyValidator Policy Surroundings ValidationFault)
open Logout (Authorised IsBackChannel verdictOn)

/-! ## What faults there are -/

/-- A back-channel logout comes to a fault. -/
inductive LogoutFault (client : Client) (v : KeyValidator) (p : Policy) (around : Surroundings)
    (site : Site) (token : String) (cause : Fault) : Prop where
  | token (deep : NestedTooDeep token) (fault : cause = .tooDeep)
  | validation (signed : ∃ parsed, ParsedToken.ofText token = .ok parsed ∧ parsed.encrypted = false)
      (strict : client.settings.logoutValidation = true)
      (h : ValidationFault v p around.check around.now site.remote token none cause)
  | key (points : List Nat) (broken : points ≠ [])
      (h : Authorised client (verdictOn around site token) token (.brokenText points))
      (place : Nat) (handler : site.sessions.handler = .indexed place)
      (index : SharedIndex) (store : KeyValueStore)
      (shared : site.sessions.indexes.read place = .shared index store)
      (fault : cause = .notEncodable)

/-- Handling a request comes to a fault. -/
inductive ExtractionFault (client : Client) (v : KeyValidator) (p : Policy)
    (around : Surroundings) (site : Site) (e : Exchange) (cause : Fault) : Prop where
  | login (login : e.parameterNamed? client.settings.logoutEndpointParameter = .ok none)
      (deep : MeetsDeepToken client e) (fault : cause = .tooDeep)
  | logout (token : String) (logout : IsBackChannel client e token)
      (h : LogoutFault client v p around site token cause)

variable {client : Client} {v : KeyValidator} {p : Policy} {keysAddress : Option String}
  {cache : Option KeyCache} {around : Surroundings} {site : Site} {e : Exchange}
  {cause : Fault}

/-! ## Verdicts of the keys -/

theorem verdictOn_keys (hverifier : site.verifier = .keys v) (token : String) :
    verdictOn around site token
      = (v.validate around.check around.now site.remote (.text token) (Value.ofText? none)).1.map
        .dict := by
  have hnull : Value.ofText? none = .null := rfl
  rw [verdictOn, hverifier, Token.Verifier.verify, hnull]
  split
  · next claims v' remote' hvalidate =>
    rw [hvalidate]
    rfl
  · next failure v' remote' hvalidate =>
    rw [hvalidate]
    rfl

theorem givesMappings_verdictOn (hverifier : site.verifier = .keys v) (token : String) :
    Logout.GivesMappings (verdictOn around site token) := by
  intro claims hclaims
  rw [verdictOn_keys hverifier, map_eq_ok_iff] at hclaims
  obtain ⟨members, -, rfl⟩ := hclaims
  exact ⟨members, rfl⟩

/-! ## Each kind of request -/

theorem resultOf_eq_error_iff {judgement : Except (Failure CallbackError) Login} :
    resultOf judgement = .error cause ↔ judgement = .error (.fault cause) := by
  rcases judgement with (_ | _) | (_ | _)
  · simp [resultOf]
  · simp [resultOf]
  · simp [resultOf]
  · simp [resultOf]

/-- A login comes to a fault only where its ID token is nested too deep. -/
theorem extract_login_fault_iff (hw : client.settings.WellTyped)
    (hlogin : e.parameterNamed? client.settings.logoutEndpointParameter = .ok none) :
    (extract client around site e).result = .error cause ↔
      cause = .tooDeep ∧ MeetsDeepToken client e := by
  rw [extract_of_login hlogin, resultOf_eq_error_iff, judge_fault_iff hw.callbackUrl]

/-- A front-channel logout comes to no fault. -/
theorem extract_front_ne_error (hw : client.settings.WellTyped) {marker : String}
    (hmarker : e.parameterNamed? client.settings.logoutEndpointParameter = .ok (some marker))
    (htoken : e.parameter? Logout.tokenParameter = none) :
    (extract client around site e).result ≠ .error cause := by
  obtain ⟨name, hname⟩ := hw.sessionIdParameter
  have hnamed : e.parameterNamed? client.settings.sessionIdParameter = .ok (e.parameter? name) := by
    rw [hname]
    rfl
  obtain ⟨sessions, hfront⟩ := site.sessions.exists_logoutFront e (e.parameter? name)
  have hanswer : Logout.answerFront client site e = .ok { site with sessions } := by
    rw [Logout.answerFront, hnamed, ok_bind, hfront, ok_bind, pure_eq_ok]
  simp [extract, hmarker, Logout.answer, htoken, hanswer, Except.map]

/-- A back-channel logout comes to a fault in no other way than these. -/
theorem extract_back_fault_iff (hverifier : site.verifier = .keys v)
    (hv : p.validator keysAddress cache = .ok v) {token : String}
    (hlogout : IsBackChannel client e token) :
    (extract client around site e).result = .error cause ↔
      LogoutFault client v p around site token cause := by
  have hmappings : Logout.GivesMappings (verdictOn around site token) :=
    givesMappings_verdictOn hverifier token
  have hvalidation : verdictOn around site token = .error (.fault cause) ↔
      ValidationFault v p around.check around.now site.remote token none cause := by
    rw [verdictOn_keys hverifier, map_eq_error_iff, Token.validate_fault_iff hv]
  obtain ⟨⟨marker, hmarker⟩, htoken⟩ := hlogout
  rw [(Logout.extract_of_token around site hmarker htoken).1, map_eq_error_iff,
    Logout.reply_eq_error_iff, Logout.session_decide_fault_iff hmappings, or_assoc, hvalidation]
  simp only [Logout.session_decide_eq_ok_iff hmappings, Logout.sessions_decide]
  constructor
  · rintro (⟨rfl, hdeep⟩ | ⟨hsigned, hstrict, hfault⟩ | ⟨sid, hauthorised, hfault⟩)
    · exact .token hdeep rfl
    · exact .validation hsigned hstrict hfault
    · obtain ⟨rfl, ⟨points, rfl, hbroken⟩, place, hhandler, index, store, hshared⟩ :=
        (Logout.Sessions.logoutBack_fault_iff hauthorised.isText).1 hfault
      exact .key points hbroken hauthorised place hhandler index store hshared rfl
  · rintro (⟨hdeep, rfl⟩ | ⟨hsigned, hstrict, hfault⟩
      | ⟨points, hbroken, hauthorised, place, hhandler, index, store, hshared, rfl⟩)
    · exact Or.inl ⟨rfl, hdeep⟩
    · exact Or.inr (Or.inl ⟨hsigned, hstrict, hfault⟩)
    · exact Or.inr (Or.inr ⟨_, hauthorised, (Logout.Sessions.logoutBack_fault_iff
        hauthorised.isText).2 ⟨rfl, ⟨points, rfl, hbroken⟩, place, hhandler, index, store,
          hshared⟩⟩)

/-! ## All requests -/

/-- A request comes to a fault in no other way than these. -/
theorem extract_eq_error_iff (hw : client.settings.WellTyped)
    (hverifier : site.verifier = .keys v) (hv : p.validator keysAddress cache = .ok v) :
    (extract client around site e).result = .error cause ↔
      ExtractionFault client v p around site e cause := by
  obtain ⟨name, hname⟩ := hw.logoutEndpointParameter
  have hnamed : e.parameterNamed? client.settings.logoutEndpointParameter
      = .ok (e.parameter? name) := by
    rw [hname]
    rfl
  -- the marker tells logouts from logins, and the logout token the two channels apart
  cases hgiven : e.parameter? name with
  | none =>
    have hlogin : e.parameterNamed? client.settings.logoutEndpointParameter = .ok none :=
      hnamed.trans (congrArg _ hgiven)
    rw [extract_login_fault_iff hw hlogin]
    constructor
    · rintro ⟨rfl, hdeep⟩
      exact .login hlogin hdeep rfl
    · rintro (⟨-, hdeep, hfault⟩ | ⟨token, ⟨⟨marker, hmarker⟩, -⟩, -⟩)
      · exact ⟨hfault, hdeep⟩
      · exact absurd (hlogin.symm.trans hmarker) (by simp)
  | some marker =>
    have hmarker : e.parameterNamed? client.settings.logoutEndpointParameter = .ok (some marker) :=
      hnamed.trans (congrArg _ hgiven)
    cases htoken : e.parameter? Logout.tokenParameter with
    | none =>
      refine iff_of_false (extract_front_ne_error hw hmarker htoken) ?_
      rintro (⟨hlogin, -, -⟩ | ⟨token, ⟨-, htoken'⟩, -⟩)
      · exact absurd (hmarker.symm.trans hlogin) (by simp)
      · exact absurd (htoken.symm.trans htoken') (by simp)
    | some token =>
      have hlogout : IsBackChannel client e token := ⟨⟨marker, hmarker⟩, htoken⟩
      rw [extract_back_fault_iff hverifier hv hlogout]
      constructor
      · exact .logout token hlogout
      · rintro (⟨hlogin, -, -⟩ | ⟨token', ⟨-, htoken'⟩, hfault⟩)
        · exact absurd (hmarker.symm.trans hlogin) (by simp)
        · obtain rfl := Option.some.inj (htoken.symm.trans htoken')
          exact hfault

/-- A site that verifies tokens by keys. -/
def keyedSite (remote : Remote) : Site :=
  { Logout.exampleSite with verifier := .keys Token.patientValidator, remote }

theorem validator_patientValidator :
    Token.examplePolicy.validator none (some Token.patientValidator.cache)
      = .ok Token.patientValidator := rfl

theorem isBackChannel_emptyToken :
    IsBackChannel Logout.exampleClient (Logout.exampleRequest emptyToken) emptyToken :=
  ⟨⟨"", rfl⟩, rfl⟩

end RelyingParty.Callback
