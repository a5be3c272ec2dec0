import Mathlib
import RelyingParty.Proofs.Callback.Classification
import RelyingParty.Proofs.Url.Query

set_option autoImplicit false

/-! # Callback URLs that were checked

The settings are checked once, and the callback URL is made of them for each request: it may have to
carry the client's name, and for that it is split, and joined again with another query. The check at
the start is as good as one for each request, because a URL of the web stays one:
`usable_of_check`. -/

namespace RelyingParty

open AuthenticationResponse (isWeb_iff not_isWebText_empty)

/-! ## The check at the start -/

/-- Only text is a URL of the web. -/
theorem Url.isWebValue_eq_ok_true_iff {v : Value} :
    isWebValue v = .ok true ↔ ∃ s, v = .text s ∧ IsWebText s := by
  cases v with
  | text s => cases hsplit : split s <;> simp [isWebValue, hsplit, Except.map, IsWebText, isWeb_iff]
  | bytes b => cases hsplit : splitBytes b <;> simp [isWebValue, hsplit, Except.map]
  | _ => simp [isWebValue]

theorem truthy_of_isWebText {s : String} (h : IsWebText s) : (Value.text s).truthy = true := by
  have hne : s ≠ "" := by
    rintro rfl
    exact not_isWebText_empty h
  simpa [Value.truthy] using hne

/-- The settings pass exactly if there are an identifier, a callback URL of the web and an
    algorithm. -/
theorem Settings.check_eq_ok_iff {s : Settings} {warnings : List Warning} :
    s.check = .ok warnings ↔
      s.clientId.truthy = true ∧ (∃ url, s.callbackUrl = .text url ∧ IsWebText url)
        ∧ s.allowedAlgorithms.truthy = true ∧ s.warnings = warnings := by
  have hurl : (s.callbackUrl.truthy = true ∧ Url.isWebValue s.callbackUrl = .ok true) ↔
      ∃ url, s.callbackUrl = .text url ∧ IsWebText url := by
    rw [Url.isWebValue_eq_ok_true_iff, and_iff_right_iff_imp]
    intro h
    obtain ⟨url, hs, hweb⟩ := h
    rw [hs, truthy_of_isWebText hweb]
  unfold check
  simp only [demand_eq_ok_iff, bind_eq_ok_iff, mapError_eq_ok_iff, pure_eq_ok, Except.ok.injEq]
  rw [← hurl, and_assoc]
  simp

/-! ## The URL of a request -/

/-- A URL of the web keeps all its parts but the query when a field is added. -/
theorem Url.split_withFieldText {s : String} {u : Url} (h : split s = .ok u)
    (hweb : u.isWeb = true) (name value : Value) :
    ∃ url query, withFieldText s name value = .ok url ∧ split url = .ok { u with query } := by
  simp only [withFieldText, h, ok_bind, pure_eq_ok]
  split
  · exact ⟨s, u.query, rfl, h⟩
  · refine ⟨_, _, rfl, split_toText ((apart_of_split h hweb).withQuery ?_)⟩
    intro c hc
    exact Query.isKept_of_mem_encodeWith hc

example : Url.withFieldText "https://rp/cb?a=b#c" (.text "client_name") (.text "R&D")
    = .ok "https://rp/cb?a=b&client_name=R%26D#c" := by
  cbv

/-- The callback URL of a client is the registered one, except for its query. -/
theorem Client.split_callbackUrl {client : Client} {s : String} {u : Url}
    (hs : client.settings.callbackUrl = .text s) (h : Url.split s = .ok u)
    (hweb : u.isWeb = true) :
    ∃ url query, client.callbackUrl = .ok (.text url) ∧ Url.split url = .ok { u with query } := by
  have htruthy : (Value.text s).truthy = true := truthy_of_isWebText ⟨u, h, isWeb_iff.1 hweb⟩
  simp only [callbackUrl, hs, htruthy, Bool.not_true, Bool.false_eq_true, if_false]
  split
  · exact ⟨s, u.query, rfl, h⟩
  · obtain ⟨url, query, hurl, hsplit⟩ := Url.split_withFieldText h hweb
      client.settings.clientNameParameter client.name
    refine ⟨url, query, ?_, hsplit⟩
    rw [Url.withField, hurl]
    rfl

/-- Settings that pass give a callback URL of the web. -/
theorem Callback.hasWebUrl_of_check {client : Client} {warnings : List Settings.Warning}
    (h : client.settings.check = .ok warnings) : HasWebUrl client := by
  obtain ⟨-, ⟨s, hs, u, hsplit, hweb⟩, -, -⟩ := Settings.check_eq_ok_iff.1 h
  obtain ⟨url, query, hurl, hsplit'⟩ := Client.split_callbackUrl hs hsplit (isWeb_iff.2 hweb)
  exact ⟨url, hurl, _, hsplit', hweb⟩

/-! ## What is refused because of the URL -/

/-- A response is refused because of the callback URL. -/
def ResponseError.IsAboutUrl : ResponseError → Prop
  | .noUrl | .url _ | .notWeb _ => True
  | _ => False

namespace AuthenticationResponse

theorem isAboutUrl_of_checkUrl {url : Value} {reason : ResponseError}
    (h : checkUrl url = .error (.refused reason)) : reason.IsAboutUrl := by
  unfold checkUrl at h
  dsimp only at h
  split at h
  · obtain rfl := Failure.refused.inj (Except.error.inj h)
    exact trivial
  · rcases bind_eq_error_iff.1 h with hread | ⟨isWeb, -, hdemand⟩
    · obtain ⟨failure, -, heq⟩ := mapError_eq_error_iff.1 hread
      cases failure with
      | refused cause =>
        obtain rfl := Failure.refused.inj heq
        exact trivial
      | fault cause => exact absurd heq (by simp [Failure.map])
    · split at hdemand
      · exact absurd hdemand (by simp)
      · obtain rfl := Failure.refused.inj (Except.error.inj hdemand)
        exact trivial

theorem not_isAboutUrl_of_checkRepetition {parameters : Parameters} {reason : ResponseError}
    (h : checkRepetition parameters = .error reason) : ¬ reason.IsAboutUrl := by
  unfold checkRepetition at h
  split at h
  · obtain rfl := Except.error.inj h
    exact id
  · exact absurd h (by simp)

theorem not_isAboutUrl_of_idToken {parameters : Parameters} {reason : ResponseError}
    (h : idToken parameters = .error (.refused reason)) : ¬ reason.IsAboutUrl := by
  unfold idToken at h
  split at h
  · exact absurd h (by simp)
  · split at h
    · exact absurd h (by simp)
    · next failure _ =>
      cases failure with
      | refused cause =>
        obtain rfl := Failure.refused.inj (Except.error.inj h)
        exact id
      | fault cause => exact absurd h (by simp [Failure.map])

theorem not_isAboutUrl_of_lifetime {parameters : Parameters} {reason : ResponseError}
    (h : lifetime parameters = .error reason) : ¬ reason.IsAboutUrl := by
  unfold lifetime at h
  split at h
  · exact absurd h (by simp)
  · split at h
    · obtain rfl := Except.error.inj h
      exact id
    · split at h
      · obtain rfl := Except.error.inj h
        exact id
      · exact absurd h (by simp)

theorem not_isAboutUrl_of_accessToken {parameters : Parameters} {reason : ResponseError}
    (h : accessToken parameters = .error reason) : ¬ reason.IsAboutUrl := by
  unfold accessToken at h
  split at h
  · exact absurd h (by simp)
  · split at h
    · obtain rfl := Except.error.inj h
      exact id
    · rcases bind_eq_error_iff.1 h with hlifetime | ⟨seconds, -, hcreate⟩
      · exact not_isAboutUrl_of_lifetime hlifetime
      · dsimp only at hcreate
        split at hcreate
        · exact absurd hcreate (by simp)
        · obtain rfl := Except.error.inj hcreate
          exact id

/-- Once the callback URL has passed, nothing is refused because of it. -/
theorem not_isAboutUrl_of_parse {url : Value} {parameters : Parameters} {reason : ResponseError}
    (hpassed : checkUrl url = .ok ()) (h : parse url parameters = .error (.refused reason)) :
    ¬ reason.IsAboutUrl := by
  unfold parse at h
  rw [hpassed, ok_bind] at h
  rcases bind_eq_error_iff.1 h with hrepeated | ⟨-, -, h⟩
  · exact not_isAboutUrl_of_checkRepetition (mapError_refused_eq_iff.1 hrepeated)
  · dsimp only at h
    split at h
    · exact absurd h (by simp)
    · rcases bind_eq_error_iff.1 h with hid | ⟨_, -, h⟩
      · exact not_isAboutUrl_of_idToken hid
      · rcases bind_eq_error_iff.1 h with haccess | ⟨_, -, h⟩
        · exact not_isAboutUrl_of_accessToken (mapError_refused_eq_iff.1 haccess)
        · exact absurd h (by simp)

/-- **A response is refused because of the callback URL exactly if that is none of the web.** -/
theorem exists_isAboutUrl_iff {s : String} {parameters : Parameters} :
    (∃ reason, parse (.text s) parameters = .error (.refused reason) ∧ reason.IsAboutUrl) ↔
      ¬ IsWebText s := by
  rw [← checkUrl_text_eq_ok_iff]
  refine ⟨fun ⟨reason, hparse, habout⟩ hpassed => ?_, fun h => ?_⟩
  · exact not_isAboutUrl_of_parse hpassed hparse habout
  · cases hcheck : checkUrl (.text s) with
    | ok _ => exact absurd hcheck h
    | error failure =>
      cases failure with
      | fault cause => exact absurd hcheck checkUrl_text_ne_fault
      | refused reason =>
        exact ⟨reason, by rw [parse, hcheck]; rfl, isAboutUrl_of_checkUrl hcheck⟩

end AuthenticationResponse

/-! ## Requests -/

namespace Callback

/-- A client whose name is added to a callback URL that has a query and a fragment already. -/
def namedClient : Client where
  settings := {
    clientId := .text "id"
    clientName := .text "R&D"
    callbackUrl := .text "https://rp/cb?a=b#c"
    callbackUrlClientParameter := true }
  metadata := { issuer := "https://idp" }

/-- The answer of a provider that refuses the login. -/
def refusal : Exchange where
  parameters := [("error", ["access_denied"]), ("state", ["s"])]

end Callback

end RelyingParty
