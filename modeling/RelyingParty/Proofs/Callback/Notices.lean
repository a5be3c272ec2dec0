import RelyingParty.Proofs.Callback.Effects

set_option autoImplicit false

/-! # What an operator gets to know

Every request to the callback URL that is refused is reported once, as an error, and no other
request is: `refusals_are_reported`. A login that cannot be trusted is reported with its reason, one
that the provider refused with what the provider says, and a logout with what is wrong about it. A
verifier that rejects a token and a logout without effect only warn, so that a refusal they lead to
is not reported twice. A logout that was carried out on an unverified token is warned about.

The errors in a log are therefore the refusals: `length_errorsOf_logOf`. -/

namespace RelyingParty.Callback

open Logout

variable {client : Client} {around : Token.Surroundings} {site : Site} {e : Exchange}
  {token : String}

/-! ## Errors among notices -/

/-- The notices of refusals. -/
def errorsOf (notices : Notices) : Notices := notices.filter (·.severity = .error)

theorem errorsOf_append (earlier later : Notices) :
    errorsOf (earlier ++ later) = errorsOf earlier ++ errorsOf later :=
  List.filter_append ..

/-- A verifier only warns. -/
theorem errorsOf_verify (v : Token.Verifier) (remote : Remote) (token nonce : Value) :
    errorsOf (v.verify around remote token nonce).notices = [] := by
  cases v with
  | fixed answer calls => rfl
  | keys validator =>
    rw [Token.Verifier.verify]
    split
    · rfl
    · next failure _ _ _ => cases failure <;> rfl

/-- A decision about a logout token only warns. -/
theorem errorsOf_decide : errorsOf (decide client around site token).notices = [] := by
  unfold Logout.decide
  split
  · rfl
  · split
    · rfl
    · split
      · exact errorsOf_verify ..
      · rfl

/-- Ending a session only warns. -/
theorem errorsOf_noticesOfBack (s : Sessions) (sid : Value) :
    errorsOf (s.noticesOfBack sid) = [] := by
  unfold Sessions.noticesOfBack
  split
  · rfl
  · split <;> rfl

/-! ## One request -/

/-- What a result is reported by: one error for each way to be refused, and none otherwise. -/
inductive ReportedBy : Except Fault ExtractionResult → Notices → Prop where
  | authenticated (credentials : Credentials) : ReportedBy (.ok (.credentials credentials)) []
  | carriedOut {response : ImmediateResponse} (h : response.status = 200) :
      ReportedBy (.ok (.respond response)) []
  | fault (cause : Fault) : ReportedBy (.error cause) []
  | untrusted (reason : String) :
      ReportedBy (.ok (.fatal reason)) [.error ("Callback rejected: " ++ reason)]
  | loginRefused (error : ErrorObject) :
      ReportedBy (.ok (.noCredentials error))
        [.error ("Bad authentication response, error=" ++ (errorValue error).quoted)]
  | logoutRefused {response : ImmediateResponse} (h : response.status = 400)
      (error : LogoutError) : ReportedBy (.ok (.respond response)) [refusalNotice error]

/-- A judgement is reported by its notices. -/
theorem reportedBy_noticesOf (judgement : Except (Failure CallbackError) Login) :
    ReportedBy (resultOf judgement) (errorsOf (noticesOf judgement)) := by
  rcases judgement with (reason | cause) | (credentials | error)
  · exact .untrusted reason.message
  · exact .fault cause
  · exact .authenticated credentials
  · exact .loginRefused error

/-- A decision about a logout token is reported once it is carried out or refused. -/
theorem reportedBy_reply {d : Decision} (h : errorsOf d.notices = []) :
    ReportedBy (d.reply.response.map .respond) (errorsOf d.reply.notices) := by
  unfold Decision.reply
  split
  · next sid _ =>
    split
    · next sessions _ =>
      dsimp only
      rw [errorsOf_append, h, errorsOf_noticesOfBack]
      exact .carriedOut rfl
    · next cause _ =>
      dsimp only
      rw [h]
      exact .fault cause
  · next error _ =>
    dsimp only
    rw [errorsOf_append, h]
    exact .logoutRefused rfl error
  · next cause _ =>
    dsimp only
    rw [h]
    exact .fault cause

/-- Every request is reported by its notices. -/
theorem reportedBy_extract (client : Client) (around : Token.Surroundings) (site : Site)
    (e : Exchange) :
    ReportedBy (extract client around site e).result
      (errorsOf (extract client around site e).notices) := by
  unfold extract
  split
  · next cause _ => exact .fault cause
  · dsimp only
    unfold answer
    split
    · exact reportedBy_reply errorsOf_decide
    · split
      · exact .carriedOut rfl
      · next cause _ => exact .fault cause
  · exact reportedBy_noticesOf _

/-- What is decided without a verification is warned about, unless it is refused before. -/
theorem unverifiedNotice_mem_decide (hweak : client.settings.logoutValidation = false) {sid : Value}
    (h : (decide client around site token).session = .ok sid) :
    unverifiedNotice ∈ (decide client around site token).notices := by
  unfold Logout.decide at h ⊢
  split at h
  · exact absurd h (by simp)
  · next parsed _ =>
    split at h
    · exact absurd h (by simp)
    · next hsigned => simp [hsigned, hweak]

/-- A decision that is carried out is reported with all its notices. -/
theorem mem_notices_reply {d : Decision} {notice : Notice} (h : notice ∈ d.notices) :
    notice ∈ d.reply.notices := by
  unfold Decision.reply
  split
  · split
    · exact List.mem_append_left _ h
    · exact h
  · exact List.mem_append_left _ h
  · exact h

theorem unverifiedNotice_mem_extract (hback : IsBackChannel client e token)
    (hweak : client.settings.logoutValidation = false) {response : ImmediateResponse}
    (hresult : (extract client around site e).result = .ok (.respond response))
    (hstatus : response.status = 200) :
    unverifiedNotice ∈ (extract client around site e).notices := by
  obtain ⟨⟨marker, hmarker⟩, htoken⟩ := hback
  have hextract : extract client around site e
      = ⟨(decide client around site token).reply.response.map .respond,
          (decide client around site token).reply.site,
          (decide client around site token).reply.notices⟩ := by
    simp only [extract, hmarker, answer, htoken]
  rw [hextract] at hresult ⊢
  obtain ⟨response', hreply, hsame⟩ := map_eq_ok_iff.1 hresult
  obtain rfl := ExtractionResult.respond.inj hsame
  obtain ⟨-, sid, -, hsession, -⟩ := reply_carriedOut_iff.1 ⟨hreply, hstatus⟩
  exact mem_notices_reply (unverifiedNotice_mem_decide hweak hsession)

/-- **No refusal is silent, and nothing else is reported as one.** What becomes of a request is
    reported by its errors: there is one for a login that cannot be trusted, with the reason, for a
    login that the provider refused and for a logout that is refused, and none for credentials or a
    logout that is carried out. If logout tokens are not verified, each logout that is carried out
    on one is warned about. -/
theorem refusals_are_reported (client : Client) (around : Token.Surroundings) (site : Site)
    (e : Exchange) :
    ReportedBy (extract client around site e).result
        (errorsOf (extract client around site e).notices)
      ∧ ∀ token, IsBackChannel client e token → client.settings.logoutValidation = false →
          ∀ response, (extract client around site e).result = .ok (.respond response) →
            response.status = 200 →
              unverifiedNotice ∈ (extract client around site e).notices :=
  ⟨reportedBy_extract client around site e, fun _ hback hweak _ hresult hstatus =>
    unverifiedNotice_mem_extract hback hweak hresult hstatus⟩

/-- A login with the state of another one, and a logout on a token that nobody verified. -/
theorem reported_strayAnswer :
    ReportedBy (.ok (.fatal CallbackError.otherState.message))
        (errorsOf (extract exampleClient quiet exampleSite strayAnswer).notices)
      ∧ IsBackChannel trustingClient (exampleRequest namelessToken) namelessToken
      ∧ (extract trustingClient quiet namelessSite (exampleRequest namelessToken)).result
        = .ok (.respond .ok)
      ∧ unverifiedNotice
        ∈ (extract trustingClient quiet namelessSite (exampleRequest namelessToken)).notices := by
  have hback : IsBackChannel trustingClient (exampleRequest namelessToken) namelessToken :=
    ⟨⟨"", rfl⟩, rfl⟩
  have hresult : (extract trustingClient quiet namelessSite
      (exampleRequest namelessToken)).result = .ok (.respond .ok) := by
    obtain ⟨token, ⟨⟨marker, hmarker⟩, htoken⟩, hauthorised⟩ := accepts_namelessToken
    have hended : (Logout.decide trustingClient quiet namelessSite token).site.sessions.logoutBack
        (.text "") = .ok (namelessSite.sessions.ended 0 [("", "a")] (.text "")) := by
      rw [sessions_decide]
      exact logoutBack_eq rfl rfl (Or.inr rfl)
    rw [(extract_of_token quiet namelessSite hmarker htoken).1,
      (reply_of_ok (session_decide_of_authorised hauthorised) hended).1]
    rfl
  have hstray := (refusals_are_reported exampleClient quiet exampleSite strayAnswer).1
  rw [fatal_strayAnswer] at hstray
  exact ⟨hstray, hback, hresult,
    (refusals_are_reported trustingClient quiet namelessSite (exampleRequest namelessToken)).2
      namelessToken hback rfl .ok hresult rfl⟩

/-! ## Any requests -/

/-- Whether a result is a refusal. -/
def isRefusal : Except Fault ExtractionResult → Bool
  | .ok (.fatal _) | .ok (.noCredentials _) => true
  | .ok (.respond response) => response.status == 400
  | .ok (.credentials _) | .error _ => false

/-- One error is reported for a refusal, and none for anything else. -/
theorem ReportedBy.length_eq {result : Except Fault ExtractionResult} {errors : Notices}
    (h : ReportedBy result errors) : errors.length = if isRefusal result then 1 else 0 := by
  cases h with
  | authenticated | fault | untrusted | loginRefused => rfl
  | carriedOut h | logoutRefused h => simp [isRefusal, h]

/-- The results of some requests, each at a moment. -/
def resultsOf (client : Client) (site : Site) :
    List (Token.Surroundings × Exchange) → List (Except Fault ExtractionResult)
  | [] => []
  | (around, e) :: rest =>
    let step := extract client around site e
    step.result :: resultsOf client step.site rest

/-- The log of some requests. -/
def logOf (client : Client) (site : Site) : List (Token.Surroundings × Exchange) → Notices
  | [] => []
  | (around, e) :: rest =>
    let step := extract client around site e
    step.notices ++ logOf client step.site rest

/-- **There are as many errors in a log as there were refusals.** -/
theorem length_errorsOf_logOf (client : Client) (site : Site)
    (requests : List (Token.Surroundings × Exchange)) :
    (errorsOf (logOf client site requests)).length
      = (resultsOf client site requests).countP isRefusal := by
  induction requests generalizing site with
  | nil => rfl
  | cons r rest ih =>
    obtain ⟨around, e⟩ := r
    have hstep := (reportedBy_extract client around site e).length_eq
    rw [logOf, resultsOf, errorsOf_append, List.length_append, hstep, ih, List.countP_cons,
      Nat.add_comm]

end RelyingParty.Callback
