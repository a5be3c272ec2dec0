import Mathlib
import RelyingParty.Proofs.Token.Soundness

set_option autoImplicit false

/-! # One token, many validations

A token is handed to validators again and again: at other moments, with other leeways, before and
after the keys were fetched. An `Occasion` is one such validation, in which a validator of a policy
gets some document of keys; how it gets it, from its cache or from the provider, is left open.

The verdicts of all occasions with the same policy and the same document differ by the moment only.
What stays the same is whether the token is `Genuine`, and `verdict_eq_ok_iff` says that the rest of
the verdict is whether its claims hold at the moment. A document that was had once can be had at any
other moment (`exists_at`), so that there is an occasion for each of them. -/

namespace RelyingParty.Token

/-! ## Documents of keys -/

/-- A document that a cache gives is the one it holds, or one that is fetched now. -/
theorem get_eq_ok_iff {c : KeyCache} {now : Int} {remote : Remote} {document : Value} :
    (c.get now remote).1 = .ok document ↔
      (c.isStale now = .ok false ∧ c.held = document)
        ∨ (c.isStale now = .ok true ∧ (remote.fetch c.address).1 = .ok document) := by
  unfold KeyCache.get
  split
  · next hstale => simp [hstale]
  · next hstale =>
    unfold KeyCache.refresh
    cases hfetch : remote.fetch c.address with
    | mk result remote' => cases result <;> simp [hstale]
  · next hstale => simp [hstale]

theorem truthy_held_of_not_isStale {c : KeyCache} {now : Int} (h : c.isStale now = .ok false) :
    c.held.truthy = true := by
  unfold KeyCache.isStale at h
  split at h
  · next htruthy => exact htruthy
  · exact absurd h (by simp)

/-- A cache that has just fetched a document which counts gives it, however short it is kept. -/
theorem get_of_truthy {document : Value} (htruthy : document.truthy = true) (address : String)
    (now : Int) (remote : Remote) :
    ((KeyCache.mk address (.int 0) document now).get now remote).1 = .ok document := by
  refine get_eq_ok_iff.2 (Or.inl ⟨?_, rfl⟩)
  simp [KeyCache.isStale, htruthy, Value.numeric?, Numeric.isBelow]

/-- A document that a cache gives once can be given by some cache at any moment. -/
theorem exists_get_eq_ok {c : KeyCache} {earlier : Int} {remote : Remote} {document : Value}
    (h : (c.get earlier remote).1 = .ok document) (now : Int) :
    ∃ c' : KeyCache, (c'.get now remote).1 = .ok document := by
  rcases get_eq_ok_iff.1 h with ⟨hfresh, rfl⟩ | ⟨-, hfetch⟩
  · exact ⟨_, get_of_truthy (truthy_held_of_not_isStale hfresh) c.address now remote⟩
  · exact ⟨KeyCache.empty c.address KeyCache.defaultTtl, get_eq_ok_iff.2 (Or.inr ⟨rfl, hfetch⟩)⟩

/-! ## Occasions -/

/-- A validator of a policy is asked at a moment, and gets a document of keys. -/
structure Occasion (p : Policy) (document : Value) where
  keysAddress : Option String
  cache : Option KeyCache
  validator : KeyValidator
  made : p.validator keysAddress cache = .ok validator
  now : Int
  remote : Remote
  had : (validator.cache.get now remote).1 = .ok document

namespace Occasion

variable {p : Policy} {document : Value} {check : Key.Check} {token nonce : Value} {claims : Claims}

/-- The verdict on a token. -/
def verdict (o : Occasion p document) (check : Key.Check) (token nonce : Value) :
    Except TokenFailure Claims :=
  (o.validator.validate check o.now o.remote token nonce).1

/-- The token is accepted. -/
def Accepts (o : Occasion p document) (check : Key.Check) (token nonce : Value) : Prop :=
  ∃ claims, o.verdict check token nonce = .ok claims

/-- A verdict depends on the policy, the document and the moment only. -/
theorem verdict_eq_judge (o : Occasion p document) :
    o.verdict check token nonce = p.terms.judge check document o.now token nonce := by
  have hhad := o.had
  unfold verdict KeyValidator.validate
  split
  · next hget => simp [hget] at hhad
  · next keys _ _ hget =>
    obtain rfl : keys = document := by simpa [hget] using hhad
    rw [Policy.terms_validator o.made]

/-- Some client has to be named for there to be a validator. -/
theorem clientId_ne_empty (o : Occasion p document) : p.clientId ≠ "" := by
  intro hempty
  have hmade := o.made
  rw [Policy.validator, KeyValidator.create, hempty] at hmade
  exact absurd hmade (by simp [Value.truthy])

/-- A cache that is given makes a validator. -/
theorem validator_of_cache (hclient : p.clientId ≠ "") (c : KeyCache) :
    p.validator none (some c) = .ok ⟨p.terms, c⟩ := by
  have htruthy : (Value.text p.clientId).truthy = true := by simpa [Value.truthy] using hclient
  rw [Policy.validator, KeyValidator.create, Policy.allowed_value, htruthy]
  rfl

/-- A document that is had on one occasion is had at any other moment too. -/
theorem exists_at (o : Occasion p document) (now : Int) :
    ∃ o' : Occasion p document, o'.now = now := by
  obtain ⟨c, hc⟩ := exists_get_eq_ok o.had now
  exact ⟨⟨none, some c, _, validator_of_cache o.clientId_ne_empty c, now, o.remote, hc⟩, rfl⟩

/-- A document that counts can be had. -/
def holding (hclient : p.clientId ≠ "") (htruthy : document.truthy = true) (now : Int) :
    Occasion p document where
  keysAddress := none
  cache := some ⟨"keys", .int 0, document, now⟩
  validator := ⟨p.terms, ⟨"keys", .int 0, document, now⟩⟩
  made := validator_of_cache hclient _
  now := now
  remote := ⟨[], []⟩
  had := get_of_truthy htruthy "keys" now ⟨[], []⟩

end Occasion

/-! ## What the moment does not change -/

/-- A token comes apart, is signed under an algorithm that is allowed, and states claims that answer
    the nonce; neither the moment nor the leeway matters. -/
def Genuine (p : Policy) (check : Key.Check) (document token nonce : Value) (claims : Claims) :
    Prop :=
  ∃ bytes parts alg, Terms.tokenBytes token = .ok bytes ∧ Compact.ofBytes bytes = .ok parts
    ∧ p.terms.algorithm parts.header = .ok alg
    ∧ Terms.checkSignature check document alg parts = .ok ()
    ∧ claimsOfPayload parts.payload = .ok claims ∧ Terms.checkNonce nonce claims = .ok ()

section Genuine

variable {p : Policy} {document : Value} {check : Key.Check} {token nonce : Value} {claims : Claims}

theorem Genuine.unique {claims' : Claims} (h : Genuine p check document token nonce claims)
    (h' : Genuine p check document token nonce claims') : claims' = claims := by
  obtain ⟨bytes, parts, _, hbytes, hparts, -, -, hclaims, -⟩ := h
  obtain ⟨bytes', parts', _, hbytes', hparts', -, -, hclaims', -⟩ := h'
  obtain rfl := Except.ok.inj (hbytes.symm.trans hbytes')
  obtain rfl := Except.ok.inj (hparts.symm.trans hparts')
  exact Except.ok.inj (hclaims'.symm.trans hclaims)

/-- The leeway is for the claims alone. -/
theorem genuine_leeway_iff {leeway : Int} :
    Genuine { p with leeway } check document token nonce claims ↔
      Genuine p check document token nonce claims := Iff.rfl

/-- A token is accepted exactly if it is genuine and its claims hold at the moment. -/
theorem Occasion.verdict_eq_ok_iff (o : Occasion p document) :
    o.verdict check token nonce = .ok claims ↔
      Genuine p check document token nonce claims ∧ Hold p o.now claims := by
  rw [o.verdict_eq_judge, judge_eq_ok_iff]
  have hhold : checkClaims claims p.terms.issuer p.terms.clientId o.now p.terms.leeway = .ok () ↔
      Hold p o.now claims := by
    rw [← checkClaims_terms_eq_ok_iff, Terms.checkClaims, mapError_eq_ok_iff]
  simp only [hhold, Genuine]
  constructor
  · rintro ⟨bytes, parts, alg, hbytes, hparts, halg, hsigned, hclaims, hhold, hnonce⟩
    exact ⟨⟨bytes, parts, alg, hbytes, hparts, halg, hsigned, hclaims, hnonce⟩, hhold⟩
  · rintro ⟨⟨bytes, parts, alg, hbytes, hparts, halg, hsigned, hclaims, hnonce⟩, hhold⟩
    exact ⟨bytes, parts, alg, hbytes, hparts, halg, hsigned, hclaims, hhold, hnonce⟩

/-- What is accepted on one occasion is accepted on those at which its claims hold, and they are the
    result. -/
theorem Occasion.verdict_eq_ok_iff_of_genuine (h : Genuine p check document token nonce claims)
    {claims' : Claims} (o : Occasion p document) :
    o.verdict check token nonce = .ok claims' ↔ claims' = claims ∧ Hold p o.now claims := by
  rw [o.verdict_eq_ok_iff]
  constructor
  · rintro ⟨hgenuine, hhold⟩
    obtain rfl := h.unique hgenuine
    exact ⟨rfl, hhold⟩
  · rintro ⟨rfl, hhold⟩
    exact ⟨h, hhold⟩

end Genuine

/-! ## A provider with one key -/

/-- A shared secret as the only key. -/
def exampleKeys : Value := .dict [(.text "kty", .text "oct"), (.text "k", .text "aw")]

/-- The validator of a policy that is patient for some seconds has that key. -/
def exampleOccasion (now : Int) : Occasion examplePolicy exampleKeys :=
  .holding (by decide) rfl now

/-- The header of the tokens of the provider. -/
def exampleHeader : Bytes := Text.asciiBytes "\x7b\"alg\":\"HS256\"\x7d".toList

/-- The parts of the token with a payload. -/
def exampleParts (payload : Bytes) : Compact where
  header := [(.text "alg", .text "HS256")]
  payload := payload
  signingInput := Compact.signedBytes exampleHeader payload
  signature := Digest.hmac .sha256 (Text.utf8 "k") (Compact.signedBytes exampleHeader payload)

/-- The token with a payload. -/
def exampleToken (payload : Bytes) : String :=
  Compact.write exampleHeader payload (exampleParts payload).signature

theorem admitted_exampleToken (payload : Bytes) :
    Admitted examplePolicy (exampleToken payload) (exampleParts payload) "HS256" := by
  have hheader : membersOf (Json.readBytes .utf8 exampleHeader)
      = .ok [(.text "alg", .text "HS256")] := by cbv
  have hnamed : Value.field? [(.text "alg", .text "HS256")] "alg" = some (.text "HS256") := by cbv
  have hparts : Compact.ofText (exampleToken payload) = .ok (exampleParts payload) := by
    rw [exampleToken, Compact.ofText_write hheader, exampleParts]
  exact admitted_iff.2 ⟨hparts, algorithm_eq_ok_iff.2 ⟨"HS256", rfl, hnamed, by decide, by decide⟩⟩

theorem verify_exampleParts (payload : Bytes) :
    Key.verify (.text "HS256") exampleKeys (exampleParts payload).signingInput
      (exampleParts payload).signature = .ok true := by
  have halg : Key.Algorithm.named (.text "HS256") = .ok (.keyedDigest .sha256) := by rfl
  have hsecret : Key.secret exampleKeys = .ok (Text.utf8 "k") := by cbv
  rw [Key.verify, halg, ok_bind]
  simp only [hsecret, ok_bind, pure_eq_ok, exampleParts, beq_self_eq_true]

/-- A token with claims that hold is accepted. -/
theorem verdict_exampleToken {now : Int} {payload : Bytes} {claims : Claims}
    (nonce : Option String) (hclaims : claimsOfPayload payload = .ok claims)
    (hhold : examplePolicy.terms.checkClaims now claims = .ok ())
    (hnonce : Terms.checkNonce (Value.ofText? nonce) claims = .ok ()) :
    (exampleOccasion now).verdict Key.verify (.text (exampleToken payload)) (Value.ofText? nonce)
      = .ok claims := by
  have hkeys : Key.candidates exampleKeys = .ok [exampleKeys] := by cbv
  have hsigned : Signed Key.verify exampleKeys (.text "HS256") (exampleParts payload).signingInput
      (exampleParts payload).signature :=
    ⟨[], exampleKeys, [], hkeys, by simp, verify_exampleParts payload⟩
  rw [Occasion.verdict_eq_judge, judge_terms_eq_ok_iff]
  exact .intro (exampleParts payload) "HS256" (admitted_exampleToken payload) hsigned
    (membersOf_eq_ok_iff.1 hclaims) (checkClaims_terms_eq_ok_iff.1 hhold)
    (checkNonce_eq_ok_iff.1 hnonce)

end RelyingParty.Token
