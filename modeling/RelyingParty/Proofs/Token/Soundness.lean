import RelyingParty.Proofs.Token.Segments
import RelyingParty.Proofs.Token.Validity

set_option autoImplicit false

/-! # What an accepted token proves

`Accepted` collects what a token has to be like: its header names an algorithm that the policy
allows, a key of the provider's document verifies the signature over what stands before its last
point, its payload is the claims, and these hold and answer the nonce.

`validate_eq_ok_iff_accepted` says that a validator accepts exactly such tokens, so that no token
gets past it for another reason, and none that is in order is turned away. -/

namespace RelyingParty.Token

/-- A token comes apart, and names an algorithm that a policy allows. -/
structure Admitted (p : Policy) (token : String) (parts : Compact) (name : String) : Prop where
  stand : ∃ header payload signature, parts.StandIn (Text.utf8 token) header payload signature
  allowed : Allows p parts.header name

/-- A token is accepted under a policy: what it takes, for the keys in a document, a moment and a
    nonce that may be expected. -/
inductive Accepted (p : Policy) (check : Key.Check) (document : Value) (now : Int) (token : String)
    (nonce : Option String) (claims : Claims) : Prop where
  | intro (parts : Compact) (name : String) (admitted : Admitted p token parts name)
      (signed : Signed check document (.text name) parts.signingInput parts.signature)
      (stated : Json.readBytes .utf8 parts.payload = .ok (.dict claims))
      (hold : Hold p now claims)
      (answered : ∀ n, nonce = some n → Value.field? claims "nonce" = some (.text n))

/-- A token is admitted exactly if it comes apart and its algorithm is one of those allowed. -/
theorem admitted_iff {p : Policy} {token : String} {parts : Compact} {name : String} :
    Admitted p token parts name ↔
      Compact.ofBytes (Text.utf8 token) = .ok parts
        ∧ p.terms.algorithm parts.header = .ok (.text name) := by
  rw [Compact.ofBytes_eq_ok_iff, algorithm_eq_ok_iff]
  constructor
  · intro h
    exact ⟨h.stand, name, rfl, h.allowed⟩
  · rintro ⟨hstand, name', heq, hallowed⟩
    obtain rfl := Value.text.inj heq
    exact ⟨hstand, hallowed⟩

/-- The verdict is acceptance exactly if the token is what it takes. -/
theorem judge_terms_eq_ok_iff {p : Policy} {check : Key.Check} {document : Value} {now : Int}
    {token : String} {nonce : Option String} {claims : Claims} :
    p.terms.judge check document now (.text token) (Value.ofText? nonce) = .ok claims ↔
      Accepted p check document now token nonce claims := by
  rw [judge_eq_ok_iff]
  constructor
  · rintro ⟨bytes, parts, alg, hbytes, hparts, halg, hsigned, hclaims, hhold, hnonce⟩
    obtain rfl := Except.ok.inj hbytes
    obtain ⟨name, rfl, -⟩ := algorithm_eq_ok_iff.1 halg
    have hhold : p.terms.checkClaims now claims = .ok () := mapError_eq_ok_iff.2 hhold
    exact ⟨parts, name, admitted_iff.2 ⟨hparts, halg⟩, checkSignature_eq_ok_iff.1 hsigned,
      membersOf_eq_ok_iff.1 hclaims, checkClaims_terms_eq_ok_iff.1 hhold,
      checkNonce_eq_ok_iff.1 hnonce⟩
  · rintro ⟨parts, name, hadmitted, hsigned, hstated, hhold, hanswered⟩
    obtain ⟨hparts, halg⟩ := admitted_iff.1 hadmitted
    exact ⟨Text.utf8 token, parts, .text name, rfl, hparts, halg,
      checkSignature_eq_ok_iff.2 hsigned, membersOf_eq_ok_iff.2 hstated,
      mapError_eq_ok_iff.1 (checkClaims_terms_eq_ok_iff.2 hhold),
      checkNonce_eq_ok_iff.2 hanswered⟩

/-- **A validator accepts exactly the tokens that are what it takes**, under the document of keys
    that its cache holds or fetches. -/
theorem validate_eq_ok_iff_accepted {p : Policy} {keysAddress : Option String}
    {cache : Option KeyCache} {v : KeyValidator} (hv : p.validator keysAddress cache = .ok v)
    {check : Key.Check} {now : Int} {remote : Remote} {token : String} {nonce : Option String}
    {claims : Claims} :
    (v.validate check now remote (.text token) (Value.ofText? nonce)).1 = .ok claims ↔
      ∃ document, (v.cache.get now remote).1 = .ok document
        ∧ Accepted p check document now token nonce claims := by
  rw [KeyValidator.validate_eq_ok_iff, Policy.terms_validator hv]
  simp only [judge_terms_eq_ok_iff]

/-! ## A token that is in order -/

/-- A policy that is patient for some seconds. -/
def examplePolicy : Policy := ⟨"i", "c", some ["HS256"], 5⟩

/-- The validator for it, which has fetched no keys yet. -/
def patientValidator : KeyValidator :=
  ⟨examplePolicy.terms, KeyCache.empty "keys" KeyCache.defaultTtl⟩

/-- A token for the client `c` that is over at 20, valid from 3, and answers the nonce `n`. -/
def timedToken : String :=
  "eyJhbGciOiJIUzI1NiJ9.eyJpc3MiOiJpIiwiYXVkIjpbImMiXSwiZXhwIjoyMCwibmJmIjoiMyIsIm5vbmNlIjoibiJ9"
    ++ ".yCzv6-C8tpuwlPXOLNaP2LTXU5iJ6Z7qCCeUdRJJr3E"

theorem accepted_timedToken :
    examplePolicy.validator none (some patientValidator.cache) = .ok patientValidator
      ∧ ∃ claims, (patientValidator.validate Key.verify 22 exampleRemote (.text timedToken)
          (Value.ofText? (some "n"))).1 = .ok claims
        ∧ ∃ document, (patientValidator.cache.get 22 exampleRemote).1 = .ok document
          ∧ Accepted examplePolicy Key.verify document 22 timedToken (some "n") claims := by
  have hv : examplePolicy.validator none (some patientValidator.cache) = .ok patientValidator := rfl
  obtain ⟨claims, h, -⟩ := exists_ok_of_toOption
    (x := (patientValidator.validate Key.verify 22 exampleRemote (.text timedToken)
      (Value.ofText? (some "n"))).1)
    (p := fun _ => true) (by decide +kernel)
  exact ⟨hv, claims, h, (validate_eq_ok_iff_accepted hv).1 h⟩

end RelyingParty.Token
