import RelyingParty.Client
import RelyingParty.Proofs.Steps

set_option autoImplicit false

/-! # Clients with well-typed settings

Settings are read with checks of their types, and later may be replaced by anything. `WellTyped`
says that each setting has the type it is declared with. The callback URL of such a client is text,
or there is a reason why it is none. -/

namespace RelyingParty

/-- A value is text or null. -/
def Value.IsOptionalText (v : Value) : Prop := v = .null ∨ ∃ s, v = .text s

/-- Each setting has the type it is declared with. -/
structure Settings.WellTyped (s : Settings) : Prop where
  clientName : ∃ t, s.clientName = .text t
  clientId : s.clientId.IsOptionalText
  callbackUrl : s.callbackUrl.IsOptionalText
  discoveryUri : s.discoveryUri.IsOptionalText
  allowedAlgorithms : ∃ names : List String, s.allowedAlgorithms = .list (names.map .text)
  clockSkewSeconds : ∃ n, s.clockSkewSeconds = .int n
  jwksTtlSeconds : ∃ n, s.jwksTtlSeconds = .int n
  logoutEndpointParameter : ∃ t, s.logoutEndpointParameter = .text t
  sessionIdParameter : ∃ t, s.sessionIdParameter = .text t
  clientNameParameter : ∃ t, s.clientNameParameter = .text t
  sessionCookieName : ∃ t, s.sessionCookieName = .text t
  redisUrl : s.redisUrl.IsOptionalText

/-- The settings that nobody changed are well-typed. -/
theorem Settings.wellTyped_default : Settings.WellTyped {} where
  clientName := ⟨_, rfl⟩
  clientId := Or.inl rfl
  callbackUrl := Or.inl rfl
  discoveryUri := Or.inl rfl
  allowedAlgorithms := ⟨["RS256"], rfl⟩
  clockSkewSeconds := ⟨_, rfl⟩
  jwksTtlSeconds := ⟨_, rfl⟩
  logoutEndpointParameter := ⟨_, rfl⟩
  sessionIdParameter := ⟨_, rfl⟩
  clientNameParameter := ⟨_, rfl⟩
  sessionCookieName := ⟨_, rfl⟩
  redisUrl := Or.inl rfl

/-- The callback URL of a client is text, or there is none for a reason. -/
theorem Client.callbackUrl_cases {c : Client} (h : c.settings.callbackUrl.IsOptionalText) :
    (∃ s, c.callbackUrl = .ok (.text s)) ∨ ∃ cause, c.callbackUrl = .error (.refused cause) := by
  unfold callbackUrl
  rcases h with hnull | ⟨s, hs⟩
  · rw [hnull]
    exact Or.inl ⟨"", rfl⟩
  · rw [hs]
    by_cases hempty : (Value.text s).truthy = true
    · cases hswitch : c.settings.callbackUrlClientParameter with
      | false => exact Or.inl ⟨s, by simp [hempty]⟩
      | true =>
        simp only [hempty, Bool.not_true, Bool.false_eq_true, if_false, Url.withField]
        cases Url.withFieldText s c.settings.clientNameParameter c.name with
        | ok url => exact Or.inl ⟨url, rfl⟩
        | error cause => exact Or.inr ⟨cause, rfl⟩
    · exact Or.inl ⟨"", by simp [hempty]⟩

end RelyingParty
