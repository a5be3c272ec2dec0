import RelyingParty.Proofs.Steps
import RelyingParty.Token.Validator

set_option autoImplicit false

/-! # What acceptance takes

A token is accepted if it passes a sequence of checks, and each of them is a statement about the
token: `validate_eq_ok_iff` says which document of keys is asked, `judge_eq_ok_iff` which parts of
the token the verdict looks at, and `checkClaims_eq_ok_iff` which checks its claims pass. -/

namespace RelyingParty.Token

/-! ## Claims -/

/-- The claims hold exactly if each check passes. -/
theorem checkClaims_eq_ok_iff {claims : Claims} {issuer : String} {client : Value} {now : Int}
    {leeway : Value} :
    checkClaims claims issuer client now leeway = .ok () ↔
      checkClient client = .ok () ∧ checkIssuedAt claims = .ok ()
        ∧ checkNotBefore claims now leeway = .ok () ∧ checkExpiration claims now leeway = .ok ()
        ∧ checkAudience claims client = .ok () ∧ checkIssuer claims issuer = .ok ()
        ∧ checkText claims "sub" .subject = .ok () ∧ checkText claims "jti" .identifier = .ok ()
        ∧ checkUnbound claims = .ok () := by
  simp only [checkClaims, check_bind_eq_ok_iff]

/-- Only text names a client. -/
theorem checkClient_eq_ok_iff {client : Value} :
    checkClient client = .ok () ↔ ∃ id, client = .text id := by
  unfold checkClient
  split
  · exact ⟨fun _ => ⟨_, rfl⟩, fun _ => rfl⟩
  · next hne =>
    constructor
    · intro h
      exact absurd h (by simp)
    · rintro ⟨id, rfl⟩
      exact absurd rfl (hne id)

/-! ## Verdicts -/

/-- A token is accepted exactly if it comes apart, one of the keys signed it under an algorithm that
    is allowed, its claims hold, and it answers the nonce. -/
theorem judge_eq_ok_iff {terms : Terms} {check : Key.Check} {keys : Value} {now : Int}
    {token nonce : Value} {claims : Claims} :
    terms.judge check keys now token nonce = .ok claims ↔
      ∃ bytes compact name, Terms.tokenBytes token = .ok bytes
        ∧ Compact.ofBytes bytes = .ok compact ∧ terms.algorithm compact.header = .ok name
        ∧ Terms.checkSignature check keys name compact = .ok ()
        ∧ claimsOfPayload compact.payload = .ok claims
        ∧ checkClaims claims terms.issuer terms.clientId now terms.leeway = .ok ()
        ∧ Terms.checkNonce nonce claims = .ok () := by
  simp only [Terms.judge, Terms.checkClaims, bind_eq_ok_iff, mapError_eq_ok_iff, pure_eq_ok,
    Except.ok.injEq]
  constructor
  · rintro ⟨bytes, hb, compact, hc, name, hn, ⟨⟩, hs, found, hp, ⟨⟩, hcl, ⟨⟩, hno, rfl⟩
    exact ⟨bytes, compact, name, hb, hc, hn, hs, hp, hcl, hno⟩
  · rintro ⟨bytes, compact, name, hb, hc, hn, hs, hp, hcl, hno⟩
    exact ⟨bytes, hb, compact, hc, name, hn, (), hs, claims, hp, (), hcl, (), hno, rfl⟩

namespace KeyValidator

/-- A validator accepts what it accepts under the document of keys that its cache holds or
    fetches. -/
theorem validate_eq_ok_iff {v : KeyValidator} {check : Key.Check} {now : Int} {remote : Remote}
    {token nonce : Value} {claims : Claims} :
    (v.validate check now remote token nonce).1 = .ok claims ↔
      ∃ keys, (v.cache.get now remote).1 = .ok keys
        ∧ v.terms.judge check keys now token nonce = .ok claims := by
  unfold validate
  split
  · next cause cache remote' hget => simp [hget]
  · next keys cache remote' hget => simp [hget]

/-- The claims of a token that is accepted hold. -/
theorem checkClaims_of_validate {v : KeyValidator} {check : Key.Check} {now : Int}
    {remote : Remote} {token nonce : Value} {claims : Claims}
    (h : (v.validate check now remote token nonce).1 = .ok claims) :
    checkClaims claims v.terms.issuer v.terms.clientId now v.terms.leeway = .ok () := by
  obtain ⟨keys, -, hj⟩ := validate_eq_ok_iff.1 h
  obtain ⟨_, _, _, -, -, -, -, -, hc, -⟩ := judge_eq_ok_iff.1 hj
  exact hc

end KeyValidator

end RelyingParty.Token
