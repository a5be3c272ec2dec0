import RelyingParty.Callback.Extraction
import RelyingParty.Proofs.Logout.Claims
import RelyingParty.Proofs.Token.Reading

set_option autoImplicit false

/-! # Back-channel logouts

A request with a logout token is carried out if the token is `Authorised`, and refused otherwise.
Carrying it out ends the one session that the index has for the session the token names, and forgets
its entry; a refusal changes no session. `backChannel_iff` says that this is what becomes of every
such request, whatever its token is, but those whose token is nested too deep: they end with a
fault. -/

namespace RelyingParty.Logout

/-! ## Tokens -/

/-- What a verifier is expected to give: claims in a mapping, or a refusal. -/
def IsVerdict (result : Except Token.TokenFailure Value) : Prop :=
  (∃ claims, result = .ok (.dict claims)) ∨ ∃ reason, result = .error (.refused reason)

/-- Claims are only given in a mapping. -/
def GivesMappings (result : Except Token.TokenFailure Value) : Prop :=
  ∀ claims, result = .ok claims → ∃ members, claims = .dict members

theorem IsVerdict.givesMappings {result : Except Token.TokenFailure Value} (h : IsVerdict result) :
    GivesMappings result := by
  rintro claims rfl
  rcases h with ⟨members, hok⟩ | ⟨reason, hrefused⟩
  · exact ⟨members, Except.ok.inj hok⟩
  · exact absurd hrefused (by simp)

/-- A token may end the session it names: it is signed and, if the client verifies logout tokens,
    its claims are accepted and name the end of that session; if not, it must not name a session by
    anything but text. -/
inductive Authorised (client : Client) (verdict : Except Token.TokenFailure Value)
    (token : String) : Value → Prop where
  | verified (parsed : ParsedToken) (claims : List (Value × Value)) (sid : Value)
      (read : ParsedToken.ofText token = .ok parsed) (signed : parsed.encrypted = false)
      (strict : client.settings.logoutValidation = true) (accepted : verdict = .ok (.dict claims))
      (h : NamesEnd claims sid) : Authorised client verdict token sid
  | unverified (parsed : ParsedToken) (sid : Value)
      (read : ParsedToken.ofText token = .ok parsed) (signed : parsed.encrypted = false)
      (weak : client.settings.logoutValidation = false)
      (named : sid = Value.fieldD parsed.claims "sid") (h : sid = .null ∨ sid.isText = true) :
      Authorised client verdict token sid

/-! ## Sessions -/

/-- The sessions after the end of a session of the provider: its entry is gone from the index, and
    so is the session it names. Without a name nothing changes. -/
def Sessions.ended (s : Sessions) (place : Nat) (entries : Entries String String) :
    Value → Sessions
  | .text sid =>
    if sid = "" then s
    else
      { s with
        store :=
          match entries.get? sid with
          | some id => { s.store with sessions := s.store.sessions.erase id }
          | none => s.store
        indexes := s.indexes.set place (.memory (entries.erase sid)) }
  | _ => s

/-- What becomes of a logout request, and of the sessions. -/
inductive BackChannelOutcome (client : Client) (verdict : Except Token.TokenFailure Value)
    (token : String) (s : Sessions) (place : Nat) (entries : Entries String String) :
    ExtractionResult → Sessions → Prop where
  | carriedOut (sid : Value) (h : Authorised client verdict token sid) :
      BackChannelOutcome client verdict token s place entries
        (.respond ⟨200, "", [("Cache-Control", "no-cache, no-store"), ("Pragma", "no-cache")]⟩)
        (s.ended place entries sid)
  | refused (h : ¬ ∃ sid, Authorised client verdict token sid) :
      BackChannelOutcome client verdict token s place entries (.respond ⟨400, "", []⟩) s

/-! ## The decision -/

variable {client : Client} {around : Token.Surroundings} {site : Site} {token : String}

/-- The verdict about a token. -/
def verdictOn (around : Token.Surroundings) (site : Site) (token : String) :
    Except Token.TokenFailure Value :=
  (site.verifier.verify around site.remote (.text token) .null).result

theorem sessions_decide : (decide client around site token).site.sessions = site.sessions := by
  unfold decide
  split
  · rfl
  · split
    · rfl
    · split
      · rfl
      · rfl

/-- An authorised token names its session by text, or not at all. -/
theorem Authorised.isText {verdict : Except Token.TokenFailure Value} {sid : Value}
    (h : Authorised client verdict token sid) : sid = .null ∨ sid.isText = true := by
  cases h with
  | verified _ _ _ _ _ _ _ hends =>
    rcases hends.named with ⟨s, rfl, -⟩ | ⟨points, rfl⟩
    · exact Or.inr rfl
    · exact Or.inr rfl
  | unverified _ _ _ _ _ _ hsid => exact hsid

/-- An authorised token ends the session it names. -/
theorem session_decide_of_authorised {sid : Value}
    (h : Authorised client (verdictOn around site token) token sid) :
    (decide client around site token).session = .ok sid := by
  cases h with
  | verified parsed claims _ hread hsigned hstrict haccepted hends =>
    have hdecision : (decide client around site token).session
        = sessionOfVerified (verdictOn around site token) := by
      simp [decide, hread, hsigned, hstrict, verdictOn]
    rw [hdecision, haccepted]
    exact sessionOfClaims_dict_eq_ok_iff.2 hends
  | unverified parsed _ hread hsigned hweak hnamed htext =>
    have hdecision : (decide client around site token).session
        = (unverifiedSession parsed.claims).mapError .refused := by
      simp [decide, hread, hsigned, hweak]
    rw [hdecision, mapError_eq_ok_iff]
    exact unverifiedSession_eq_ok_iff.2 ⟨hnamed, htext⟩

/-- A session is to be ended exactly if the token is authorised to. -/
theorem session_decide_eq_ok_iff {sid : Value} (hm : GivesMappings (verdictOn around site token)) :
    (decide client around site token).session = .ok sid ↔
      Authorised client (verdictOn around site token) token sid := by
  refine ⟨fun h => ?_, session_decide_of_authorised⟩
  unfold decide at h
  split at h
  · exact absurd h (by simp)
  · next parsed hread =>
    split at h
    · exact absurd h (by simp)
    · next hencrypted =>
      have hsigned : parsed.encrypted = false := by simpa using hencrypted
      split at h
      · next hstrict =>
        have hverified : sessionOfVerified (verdictOn around site token) = .ok sid := h
        cases hverdict : verdictOn around site token with
        | error failure =>
          rw [hverdict] at hverified
          exact absurd hverified (by simp [sessionOfVerified])
        | ok claims =>
          obtain ⟨members, rfl⟩ := hm claims hverdict
          rw [hverdict] at hverified
          exact .verified parsed members sid hread hsigned hstrict rfl
            (sessionOfClaims_dict_eq_ok_iff.1 hverified)
      · next hweak =>
        have hoff : client.settings.logoutValidation = false := by simpa using hweak
        obtain ⟨hnamed, htext⟩ := unverifiedSession_eq_ok_iff.1 (mapError_eq_ok_iff.1 h)
        exact .unverified parsed sid hread hsigned hoff hnamed htext

theorem decide_eq_ok_iff {sid : Value} (hv : IsVerdict (verdictOn around site token)) :
    (decide client around site token).session = .ok sid ↔
      Authorised client (verdictOn around site token) token sid :=
  session_decide_eq_ok_iff hv.givesMappings

/-- A decision is a fault exactly if the token is nested too deep, or the verifier comes to one. -/
theorem session_decide_fault_iff {cause : Fault}
    (hm : GivesMappings (verdictOn around site token)) :
    (decide client around site token).session = .error (.fault cause) ↔
      (cause = .tooDeep ∧ NestedTooDeep token)
        ∨ (∃ parsed, ParsedToken.ofText token = .ok parsed ∧ parsed.encrypted = false)
          ∧ client.settings.logoutValidation = true
          ∧ verdictOn around site token = .error (.fault cause) := by
  rw [← ParsedToken.ofText_fault_iff]
  unfold decide
  split
  · next failure hread =>
    rw [hread]
    cases failure <;> simp [Failure.map]
  · next parsed hread =>
    rw [hread]
    split
    · next hencrypted => simp [hencrypted]
    · next hencrypted =>
      split
      · next hstrict =>
        show sessionOfVerified (verdictOn around site token) = .error (.fault cause) ↔ _
        cases hverdict : verdictOn around site token with
        | ok claims =>
          obtain ⟨members, rfl⟩ := hm claims hverdict
          exact iff_of_false sessionOfClaims_dict_ne_fault (by simp)
        | error failure => cases failure <;> simp [sessionOfVerified, Failure.map, hencrypted,
            hstrict]
      · next hweak => exact iff_of_false mapError_refused_ne_fault (by simp [hweak])

theorem decide_fault_iff {cause : Fault} (hv : IsVerdict (verdictOn around site token)) :
    (decide client around site token).session = .error (.fault cause) ↔
      cause = .tooDeep ∧ NestedTooDeep token := by
  have hno : verdictOn around site token ≠ .error (.fault cause) := by
    rcases hv with ⟨claims, hok⟩ | ⟨reason, hrefused⟩
    · simp [hok]
    · simp [hrefused]
  rw [session_decide_fault_iff hv.givesMappings]
  exact or_iff_left fun h => hno h.2.2

/-! ## Carrying it out -/

section Ending

variable {s : Sessions} {place : Nat} {entries : Entries String String}

/-- An index that is put back into its place changes nothing. -/
theorem write_read (cells : IndexCells) (place : Nat) :
    cells.write place (cells.read place) = cells := by
  unfold IndexCells.write IndexCells.read
  by_cases h : place < cells.length
  · rw [List.getD_eq_getElem?_getD, List.getElem?_eq_getElem h, Option.getD_some,
      List.set_getElem_self]
  · exact List.set_eq_of_length_le (Nat.le_of_not_lt h)

/-- Carrying out a logout ends the session it names. -/
theorem logoutBack_eq (hhandler : s.handler = .indexed place)
    (hindex : s.indexes.read place = .memory entries) {sid : Value}
    (hsid : sid = .null ∨ sid.isText = true) :
    s.logoutBack sid = .ok (s.ended place entries sid) := by
  have hback : s.logoutBack sid = ((SessionIndex.memory entries).logoutBack s.store sid).map
      fun r => { s with store := r.2, indexes := s.indexes.write place r.1 } := by
    rw [Sessions.logoutBack, hhandler, ← hindex]
  -- what leaves the index and the store as they are leaves everything so
  have hsame : (Except.ok (SessionIndex.memory entries, s.store)
      : Except Fault (SessionIndex × SessionStore)).map
      (fun r => { s with store := r.2, indexes := s.indexes.write place r.1 }) = .ok s := by
    show Except.ok { s with indexes := s.indexes.write place (.memory entries) } = _
    rw [← hindex, write_read]
  rw [hback]
  rcases hsid with rfl | htext
  · exact hsame
  · cases sid with
    | text name =>
      by_cases hname : name = ""
      · rw [hname]
        exact hsame
      · have htruthy : (Value.text name).truthy = true := by simpa [Value.truthy] using hname
        rw [Sessions.ended, if_neg hname, SessionIndex.logoutBack, if_pos htruthy]
        cases hentry : entries.get? name with
        | none => simp [SessionIndex.nameOf, SessionIndex.get?, SessionIndex.remove, hentry,
            IndexCells.write, Except.map]
        | some id => simp [SessionIndex.nameOf, SessionIndex.get?, SessionIndex.remove, hentry,
            IndexCells.write, Except.map, SessionStore.destroy]
    | brokenText points =>
      have hnone : (SessionIndex.memory entries).logoutBack s.store (.brokenText points)
          = .ok (.memory entries, s.store) := by
        rw [SessionIndex.logoutBack]
        split
        · rfl
        · rfl
      rw [hnone]
      exact hsame
    | _ => exact absurd htext (by simp [Value.isText])

end Ending

/-! ## The reply -/

theorem reply_of_ok {d : Decision} {sid : Value} {sessions : Sessions} (h : d.session = .ok sid)
    (hback : d.site.sessions.logoutBack sid = .ok sessions) :
    d.reply.response = .ok .ok ∧ d.reply.site.sessions = sessions := by
  simp only [Decision.reply, h, hback, and_self]

theorem reply_of_refused {d : Decision} {error : LogoutError}
    (h : d.session = .error (.refused error)) :
    d.reply.response = .ok .badRequest ∧ d.reply.site.sessions = d.site.sessions := by
  simp only [Decision.reply, h, and_self]

theorem reply_of_fault {d : Decision} {cause : Fault} (h : d.session = .error (.fault cause)) :
    d.reply.response = .error cause := by
  simp only [Decision.reply, h]

/-- A reply comes to a fault if the decision does, or carrying it out. -/
theorem reply_eq_error_iff {d : Decision} {cause : Fault} :
    d.reply.response = .error cause ↔
      d.session = .error (.fault cause)
        ∨ ∃ sid, d.session = .ok sid ∧ d.site.sessions.logoutBack sid = .error cause := by
  unfold Decision.reply
  cases hsession : d.session with
  | ok sid =>
    cases hback : d.site.sessions.logoutBack sid with
    | ok sessions => simp [hback]
    | error cause' => simp [hback]
  | error failure =>
    cases failure with
    | refused error => simp
    | fault cause' => simp

/-- A request is answered as carried out exactly if it names a session, or none, and that can be
    done. -/
theorem reply_carriedOut_iff {d : Decision} {response : ImmediateResponse} :
    d.reply.response = .ok response ∧ response.status = 200 ↔
      response = .ok ∧ ∃ sid sessions, d.session = .ok sid
        ∧ d.site.sessions.logoutBack sid = .ok sessions := by
  cases hsession : d.session with
  | ok sid =>
    cases hback : d.site.sessions.logoutBack sid with
    | ok sessions =>
      rw [(reply_of_ok hsession hback).1]
      constructor
      · intro h
        exact ⟨(Except.ok.inj h.1).symm, sid, sessions, rfl, hback⟩
      · intro h
        rw [h.1]
        exact ⟨rfl, rfl⟩
    | error cause =>
      rw [reply_eq_error_iff.2 (Or.inr ⟨sid, hsession, hback⟩)]
      simp [hback]
  | error failure =>
    cases failure with
    | refused error =>
      rw [(reply_of_refused hsession).1]
      refine iff_of_false ?_ (by simp)
      rintro ⟨hresponse, hstatus⟩
      rw [← Except.ok.inj hresponse] at hstatus
      exact absurd hstatus (by decide)
    | fault cause =>
      rw [reply_of_fault hsession]
      simp

/-- A logout request with a token is answered by the decision about the token. -/
theorem extract_of_token (around : Token.Surroundings) (site : Site) {e : Exchange}
    {marker : String}
    (hmarker : e.parameterNamed? client.settings.logoutEndpointParameter = .ok (some marker))
    (htoken : e.parameter? tokenParameter = some token) :
    (Callback.extract client around site e).result
        = (decide client around site token).reply.response.map .respond
      ∧ (Callback.extract client around site e).site
        = (decide client around site token).reply.site := by
  simp only [Callback.extract, hmarker, answer, htoken, and_self]

/-! ## The result -/

/-- A token that is decided about without a fault is not nested too deep. -/
theorem not_nestedTooDeep_of_decide (client : Client)
    (hverifier : IsVerdict (verdictOn around site token))
    (h : (decide client around site token).session ≠ .error (.fault .tooDeep)) :
    ¬ NestedTooDeep token :=
  fun hdeep => h ((decide_fault_iff hverifier).2 ⟨rfl, hdeep⟩)

/-- **A back-channel logout is carried out if its token is authorised and refused if not, exactly if
    the token is not nested too deep.** -/
theorem backChannel_iff {e : Exchange} {marker : String} {place : Nat}
    {entries : Entries String String}
    (hmarker : e.parameterNamed? client.settings.logoutEndpointParameter = .ok (some marker))
    (htoken : e.parameter? tokenParameter = some token)
    (hverifier : IsVerdict (verdictOn around site token))
    (hhandler : site.sessions.handler = .indexed place)
    (hindex : site.sessions.indexes.read place = .memory entries) :
    (∃ result, (Callback.extract client around site e).result = .ok result
      ∧ BackChannelOutcome client (verdictOn around site token) token site.sessions place entries
        result (Callback.extract client around site e).site.sessions) ↔ ¬ NestedTooDeep token := by
  obtain ⟨hresult, hsite⟩ := extract_of_token around site hmarker htoken
  have hsessions : (decide client around site token).site.sessions = site.sessions :=
    sessions_decide
  rw [hresult, hsite]
  cases hsession : (decide client around site token).session with
  | ok sid =>
    have hauthorised := (decide_eq_ok_iff hverifier).1 hsession
    have hback : (decide client around site token).site.sessions.logoutBack sid
        = .ok (site.sessions.ended place entries sid) := by
      rw [hsessions]
      exact logoutBack_eq hhandler hindex hauthorised.isText
    have hshallow : ¬ NestedTooDeep token :=
      not_nestedTooDeep_of_decide client hverifier (by simp [hsession])
    obtain ⟨hresponse, hafter⟩ := reply_of_ok hsession hback
    rw [hresponse, hafter]
    exact iff_of_true ⟨_, rfl, .carriedOut sid hauthorised⟩ hshallow
  | error failure =>
    cases failure with
    | refused error =>
      have hunauthorised : ¬ ∃ sid, Authorised client (verdictOn around site token) token sid := by
        rintro ⟨sid, hauthorised⟩
        rw [(decide_eq_ok_iff hverifier).2 hauthorised] at hsession
        exact absurd hsession (by simp)
      have hshallow : ¬ NestedTooDeep token :=
        not_nestedTooDeep_of_decide client hverifier (by simp [hsession])
      obtain ⟨hresponse, hafter⟩ := reply_of_refused hsession
      rw [hresponse, hafter, hsessions]
      exact iff_of_true ⟨_, rfl, .refused hunauthorised⟩ hshallow
    | fault cause =>
      have hdeep : NestedTooDeep token := ((decide_fault_iff hverifier).1 hsession).2
      rw [reply_of_fault hsession]
      refine iff_of_false ?_ (not_not_intro hdeep)
      rintro ⟨result, hok, -⟩
      exact absurd hok (by simp [Except.map])

/-! ## A logout -/

/-- A client, the site of which knows that a session of the provider is one of its own. -/
def exampleClient : Client := { settings := {}, metadata := { issuer := "https://idp" } }

/-- Claims that name the end of the session `p`. -/
def exampleClaims : List (Value × Value) :=
  [(.text "events", .dict [(.text event, .dict [])]), (.text "sid", .text "p")]

/-- A site with a session that an index in memory has for the session `p` of the provider. -/
def exampleSite : Site where
  sessions := {
    store := { cookieName := "session", sessions := [("a", [])], supply := ⟨toString, 0⟩ }
    indexes := [.memory [("p", "a")]]
    handler := .indexed 0 }
  verifier := .fixed (.ok (.dict exampleClaims)) 0
  remote := ⟨[], []⟩

/-- A logout request with a token. -/
def exampleRequest (token : String) : Exchange where
  parameters := [("logoutendpoint", [""]), (tokenParameter, [token])]

theorem outcome_emptyToken :
    ∃ result, (Callback.extract exampleClient ⟨Key.verify, 0⟩ exampleSite
        (exampleRequest emptyToken)).result = .ok result
      ∧ BackChannelOutcome exampleClient (verdictOn ⟨Key.verify, 0⟩ exampleSite emptyToken)
        emptyToken exampleSite.sessions 0 [("p", "a")] result
        (Callback.extract exampleClient ⟨Key.verify, 0⟩ exampleSite
          (exampleRequest emptyToken)).site.sessions :=
  (backChannel_iff rfl rfl (Or.inl ⟨_, rfl⟩) rfl rfl).2 not_nestedTooDeep_emptyToken

/-- A logout request may end with a fault instead of a response. -/
theorem extract_deepLogout :
    IsVerdict (verdictOn ⟨Key.verify, 0⟩ exampleSite (deepToken 5000))
      ∧ ¬ ∃ result, (Callback.extract exampleClient ⟨Key.verify, 0⟩ exampleSite
        (exampleRequest (deepToken 5000))).result = .ok result := by
  have hverdict : IsVerdict (verdictOn ⟨Key.verify, 0⟩ exampleSite (deepToken 5000)) :=
    Or.inl ⟨_, rfl⟩
  refine ⟨hverdict, ?_⟩
  have hfault : (decide exampleClient ⟨Key.verify, 0⟩ exampleSite (deepToken 5000)).session
      = .error (.fault .tooDeep) :=
    (decide_fault_iff hverdict).2 ⟨rfl, nestedTooDeep_deepToken (by decide)⟩
  have hresult : (Callback.extract exampleClient ⟨Key.verify, 0⟩ exampleSite
      (exampleRequest (deepToken 5000))).result
        = (decide exampleClient ⟨Key.verify, 0⟩ exampleSite (deepToken 5000)).reply.response.map
          .respond :=
    (extract_of_token ⟨Key.verify, 0⟩ exampleSite rfl rfl).1
  rw [hresult, reply_of_fault hfault]
  rintro ⟨result, hok⟩
  exact absurd hok (by simp [Except.map])

end RelyingParty.Logout
