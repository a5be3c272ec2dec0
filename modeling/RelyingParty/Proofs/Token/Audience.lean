import Mathlib.Tactic.SplitIfs
import RelyingParty.Proofs.Token.Acceptance
import RelyingParty.Proofs.Value.Equality

set_option autoImplicit false

/-! # The audience of an accepted token

A token that names an audience is accepted only by a client that belongs to it. A token that names
none is accepted by every client of the provider: `audience_iff_stated` says that this is the only
way for a token to get past a client it was not made for, and `accepts_without_audience` that there
are such tokens. -/

namespace RelyingParty.Token

/-! ## Audiences -/

/-- An audience is a client alone, or a list of texts with the client among them. -/
def IsAudienceOf (audience client : Value) : Prop :=
  audience = client ∨ ∃ parties, audience = .list parties ∧ (∀ x ∈ parties, x.isText = true)
    ∧ client ∈ parties

/-- The parties of an audience have a client among them exactly if it is an audience of the
    client. -/
theorem audiences?_any_iff {audience : Value} {id : String} {parties : List Value}
    (h : audiences? audience = some parties) :
    parties.any (Value.text id).same = true ↔ IsAudienceOf audience (.text id) := by
  have hmem : parties.any (Value.text id).same = true ↔ Value.text id ∈ parties := by
    simp only [List.any_eq_true, Value.same_text_iff, exists_eq_right]
  rw [hmem]
  -- a list counts as an audience only if all of it is text, anything else only if it is itself text
  unfold audiences? at h
  split at h
  · next xs =>
    split_ifs at h with ht
    obtain rfl := Option.some.inj h
    rw [List.all_eq_true] at ht
    constructor
    · intro hx
      exact Or.inr ⟨xs, rfl, ht, hx⟩
    · rintro (hx | ⟨ys, hy, -, hx⟩)
      · exact absurd hx (by simp)
      · obtain rfl := Value.list.inj hy
        exact hx
  · next hne =>
    split_ifs at h with ht
    obtain rfl := Option.some.inj h
    constructor
    · intro hx
      exact Or.inl (List.mem_singleton.1 hx).symm
    · rintro (hx | ⟨ys, hy, -, -⟩)
      · exact List.mem_singleton.2 hx.symm
      · exact absurd hy (hne ys)

/-- The check of the audience passes if the claims name none, or one of the client. -/
theorem checkAudience_eq_ok_iff {claims : Claims} {id : String} :
    checkAudience claims (.text id) = .ok () ↔
      ∀ audience, Value.field? claims "aud" = some audience → IsAudienceOf audience (.text id) := by
  unfold checkAudience
  cases haud : Value.field? claims "aud" with
  | none => simp
  | some audience =>
    cases hp : audiences? audience with
    | none =>
      -- claims that are neither text nor a list of texts fail, and are no audience either
      have hnot : ¬ IsAudienceOf audience (.text id) := by
        rintro (rfl | ⟨xs, rfl, ht, -⟩)
        · simp [audiences?, Value.isText] at hp
        · simp only [audiences?, List.all_eq_true.2 ht, if_true] at hp
          exact absurd hp (by simp)
      simp [hp, hnot]
    | some parties =>
      have hany : parties.any (Value.text id).same = true ↔ IsAudienceOf audience (.text id) :=
        audiences?_any_iff hp
      by_cases hx : parties.any (Value.text id).same = true
      · simp [hp, hx, hany.1 hx]
      · have hnot : ¬ IsAudienceOf audience (.text id) := fun hi => hx (hany.2 hi)
        simp [hp, hx, hnot]

/-! ## Accepted tokens -/

/-- **An accepted token is for the client exactly if it says for whom it is.** -/
theorem audience_iff_stated {v : KeyValidator} {check : Key.Check} {now : Int} {remote : Remote}
    {token nonce : Value} {claims : Claims}
    (h : (v.validate check now remote token nonce).1 = .ok claims) :
    (∃ id audience, v.terms.clientId = .text id ∧ Value.field? claims "aud" = some audience
      ∧ IsAudienceOf audience (.text id)) ↔ (Value.field? claims "aud").isSome = true := by
  have hclaims : checkClaims claims v.terms.issuer v.terms.clientId now v.terms.leeway = .ok () :=
    KeyValidator.checkClaims_of_validate h
  obtain ⟨hclient, -, -, -, haud, -⟩ := checkClaims_eq_ok_iff.1 hclaims
  obtain ⟨id, hid⟩ := checkClient_eq_ok_iff.1 hclient
  rw [hid] at haud
  constructor
  · rintro ⟨_, audience, -, hstated, -⟩
    rw [hstated]
    rfl
  · intro hstated
    obtain ⟨audience, ha⟩ := Option.isSome_iff_exists.1 hstated
    exact ⟨id, audience, hid, ha, checkAudience_eq_ok_iff.1 haud audience ha⟩

/-! ## A provider with two tokens -/

/-- A client that trusts one issuer, the only key of which is a shared secret. -/
def exampleValidator : KeyValidator where
  terms := ⟨"i", .text "c", .list [.text "HS256"], defaultLeeway⟩
  cache := KeyCache.empty "keys" KeyCache.defaultTtl

/-- The issuer's document of keys. -/
def exampleRemote : Remote :=
  ⟨[("keys", [⟨200, "\x7b\"kty\": \"oct\", \"k\": \"aw\"\x7d"⟩])], []⟩

/-- A token of the issuer for a list of clients, which is the client `c` alone. -/
def addressedToken : Value :=
  .text ("eyJhbGciOiJIUzI1NiJ9.eyJhdWQiOlsiYyJdLCJpc3MiOiJpIn0."
    ++ "K7U7vl1tAtHHw3cNqUljSymHpjuaU0Gyrx46o1VV1WI")

/-- A token of the issuer that states nothing but its issuer. -/
def unaddressedToken : Value :=
  .text ("eyJhbGciOiJIUzI1NiJ9.eyJpc3MiOiJpIn0."
    ++ "Y3kYuAjAKG1QU1167wuXu76zvCDDurZRkYm1wVhnGfE")

theorem audience_of_addressedToken :
    ∃ claims, (exampleValidator.validate Key.verify 1700000000 exampleRemote addressedToken
        .null).1 = .ok claims
      ∧ ∃ id audience, exampleValidator.terms.clientId = .text id
        ∧ Value.field? claims "aud" = some audience ∧ IsAudienceOf audience (.text id) := by
  obtain ⟨claims, h, haud⟩ := exists_ok_of_toOption
    (x := (exampleValidator.validate Key.verify 1700000000 exampleRemote addressedToken .null).1)
    (p := fun claims => (Value.field? claims "aud").isSome) (by decide +kernel)
  exact ⟨claims, h, (audience_iff_stated h).2 haud⟩

/-- A token may be accepted although it is not made for the client. -/
theorem accepts_without_audience :
    ∃ claims, (exampleValidator.validate Key.verify 1700000000 exampleRemote unaddressedToken
        .null).1 = .ok claims
      ∧ ¬ ∃ audience, Value.field? claims "aud" = some audience
        ∧ IsAudienceOf audience exampleValidator.terms.clientId := by
  obtain ⟨claims, h, hnone⟩ := exists_ok_of_toOption
    (x := (exampleValidator.validate Key.verify 1700000000 exampleRemote unaddressedToken .null).1)
    (p := fun claims => (Value.field? claims "aud").isNone) (by decide +kernel)
  refine ⟨claims, h, ?_⟩
  rintro ⟨audience, hstated, -⟩
  rw [hstated] at hnone
  exact absurd hnone (by simp)

end RelyingParty.Token
