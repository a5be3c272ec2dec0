import RelyingParty.Proofs.Token.Reading
import RelyingParty.Proofs.Token.Soundness

set_option autoImplicit false

/-! # Validations that come to no verdict

A validator is expected to accept a token or to refuse it. It does neither where it meets something
it has no verdict for: keys that cannot be had, a key or a collection of keys of the wrong type, a
part of a token that is nested too deep, or a claim of a type that is never a time.
`ValidationFault` lists these ways in the order in which they are met, each with all that has to be
in order before it, and `validate_fault_iff` says that there are no others. -/

namespace RelyingParty.Token

/-! ## Keys -/

/-- The keys cannot be had: they have to be fetched and the fetch fails, or the time for which they
    are kept is no number. -/
inductive KeysMissing (c : KeyCache) (now : Int) (remote : Remote) (cause : Fault) : Prop where
  | fetch (e : FetchError) (stale : c.isStale now = .ok true)
      (h : (remote.fetch c.address).1 = .error e) (fault : cause = .fetch e)
  | age (held : c.held.truthy = true) (h : c.ttl.numeric? = none) (fault : cause = .wrongType)

theorem isStale_eq_error_iff {c : KeyCache} {now : Int} {cause : Fault} :
    c.isStale now = .error cause ↔
      c.held.truthy = true ∧ c.ttl.numeric? = none ∧ cause = .wrongType := by
  unfold KeyCache.isStale
  cases c.held.truthy with
  | false => simp
  | true => cases c.ttl.numeric? <;> simp [eq_comm]

theorem get_eq_error_iff {c : KeyCache} {now : Int} {remote : Remote} {cause : Fault} :
    (c.get now remote).1 = .error cause ↔ KeysMissing c now remote cause := by
  unfold KeyCache.get
  split
  · next e hstale =>
    constructor
    · intro h
      obtain rfl := Except.error.inj h
      obtain ⟨hheld, httl, hfault⟩ := isStale_eq_error_iff.1 hstale
      exact .age hheld httl hfault
    · rintro (⟨_, hstale', -, -⟩ | ⟨-, -, rfl⟩)
      · exact absurd (hstale.symm.trans hstale') (by simp)
      · rw [(isStale_eq_error_iff.1 hstale).2.2]
  · next hstale =>
    unfold KeyCache.refresh
    constructor
    · intro h
      split at h
      · exact absurd h (by simp)
      · next e remote' hfetch =>
        obtain rfl := Except.error.inj h
        exact .fetch e hstale (by rw [hfetch]) rfl
    · rintro (⟨e, -, hfetch, rfl⟩ | ⟨hheld, httl, -⟩)
      · split
        · next document remote' hok =>
          rw [hok] at hfetch
          exact absurd hfetch (by simp)
        · next e' remote' herror =>
          rw [herror] at hfetch
          obtain rfl := Except.error.inj hfetch
          rfl
      · exact absurd (hstale.symm.trans (isStale_eq_error_iff.2 ⟨hheld, httl, rfl⟩)) (by simp)
  · next hstale =>
    refine iff_of_false (by simp) ?_
    rintro (⟨_, hstale', -, -⟩ | ⟨hheld, httl, -⟩)
    · exact absurd (hstale.symm.trans hstale') (by simp)
    · exact absurd (hstale.symm.trans (isStale_eq_error_iff.2 ⟨hheld, httl, rfl⟩)) (by simp)

/-! ## Tokens -/

/-- A token comes to a fault under a policy, the keys being at hand. -/
inductive JudgementFault (p : Policy) (check : Key.Check) (document : Value) (now : Int)
    (token : String) (nonce : Option String) (cause : Fault) : Prop where
  | header (header payload signature bytes : Bytes)
      (cut : IsCut (Text.utf8 token) header payload signature)
      (decoded : Base64.decode? header = some bytes)
      (deep : Json.readBytes .utf8 bytes = .error .tooDeep) (fault : cause = .tooDeep)
  | search (parts : Compact) (name : String) (admitted : Admitted p token parts name)
      (h : SearchFault check document (.text name) parts.signingInput parts.signature cause)
  | payload (parts : Compact) (name : String) (admitted : Admitted p token parts name)
      (signed : Signed check document (.text name) parts.signingInput parts.signature)
      (deep : Json.readBytes .utf8 parts.payload = .error .tooDeep) (fault : cause = .tooDeep)
  | time (parts : Compact) (name : String) (admitted : Admitted p token parts name)
      (signed : Signed check document (.text name) parts.signingInput parts.signature)
      (claims : Claims) (stated : Json.readBytes .utf8 parts.payload = .ok (.dict claims))
      (h : TimeFault p now claims cause)
  | nonce (parts : Compact) (name : String) (admitted : Admitted p token parts name)
      (signed : Signed check document (.text name) parts.signingInput parts.signature)
      (claims : Claims) (stated : Json.readBytes .utf8 parts.payload = .ok (.dict claims))
      (hold : Hold p now claims) (expected : nonce.isSome = true) (points : List Nat)
      (broken : Value.field? claims "nonce" = some (.brokenText points))
      (fault : cause = .notEncodable)

theorem rejection_eq_fault_iff {reason : Rejection} {fault : Option Fault} {cause : Fault} :
    Terms.rejection reason fault = .fault cause ↔ fault = some cause := by
  cases fault <;> simp [Terms.rejection]

theorem CompactError.fault?_eq_some_iff {e : CompactError} {cause : Fault} :
    e.fault? = some cause ↔ cause = .tooDeep ∧ e = .header .tooDeep := by
  cases e with
  | header e => simp [CompactError.fault?, ObjectError.fault?_eq_some_iff]
  | _ => simp [CompactError.fault?]

theorem judge_terms_fault_iff {p : Policy} {check : Key.Check} {document : Value} {now : Int}
    {token : String} {nonce : Option String} {cause : Fault} :
    p.terms.judge check document now (.text token) (Value.ofText? nonce) = .error (.fault cause) ↔
      JudgementFault p check document now token nonce cause := by
  have hbytes : Terms.tokenBytes (.text token) = .ok (Text.utf8 token) := rfl
  simp only [Terms.judge, hbytes, ok_bind, bind_eq_error_iff, mapError_eq_error_iff,
    mapError_eq_ok_iff, rejection_eq_fault_iff, checkSignature_fault_iff,
    checkClaims_terms_fault_iff, checkNonce_fault_iff, pure_eq_ok, reduceCtorEq, and_false,
    exists_false, or_false]
  constructor
  · rintro (⟨e, hparts, he⟩ | ⟨parts, hparts, halg | ⟨alg, halg, hrest⟩⟩)
    · obtain ⟨rfl, rfl⟩ := CompactError.fault?_eq_some_iff.1 he
      obtain ⟨header, payload, signature, bytes, hcut, hdecoded, hdeep⟩ :=
        Compact.ofBytes_tooDeep_iff.1 hparts
      exact .header header payload signature bytes hcut hdecoded hdeep rfl
    · exact absurd halg algorithm_ne_fault
    · obtain ⟨name, rfl, -⟩ := algorithm_eq_ok_iff.1 halg
      have hadmitted : Admitted p token parts name := admitted_iff.2 ⟨hparts, halg⟩
      rcases hrest with hsearch | ⟨_, hsigned, hrest⟩
      · exact .search parts name hadmitted hsearch
      · have hsigned := checkSignature_eq_ok_iff.1 hsigned
        rcases hrest with ⟨e, hclaims, he⟩ | ⟨claims, hclaims, hrest⟩
        · obtain ⟨rfl, rfl⟩ := ObjectError.fault?_eq_some_iff.1 he
          exact .payload parts name hadmitted hsigned (membersOf_tooDeep_iff.1 hclaims) rfl
        · have hstated := membersOf_eq_ok_iff.1 hclaims
          rcases hrest with htime | ⟨_, hhold, rfl, hexpected, points, hbroken⟩
          · exact .time parts name hadmitted hsigned claims hstated htime
          · exact .nonce parts name hadmitted hsigned claims hstated
              (checkClaims_terms_eq_ok_iff.1 hhold) hexpected points hbroken rfl
  · rintro (⟨header, payload, signature, bytes, hcut, hdecoded, hdeep, rfl⟩
      | ⟨parts, name, hadmitted, hsearch⟩ | ⟨parts, name, hadmitted, hsigned, hdeep, rfl⟩
      | ⟨parts, name, hadmitted, hsigned, claims, hstated, htime⟩
      | ⟨parts, name, hadmitted, hsigned, claims, hstated, hhold, hexpected, points, hbroken, rfl⟩)
    · exact Or.inl ⟨.header .tooDeep, Compact.ofBytes_tooDeep_iff.2
        ⟨header, payload, signature, bytes, hcut, hdecoded, hdeep⟩, rfl⟩
    · obtain ⟨hparts, halg⟩ := admitted_iff.1 hadmitted
      exact Or.inr ⟨parts, hparts, Or.inr ⟨_, halg, Or.inl hsearch⟩⟩
    · obtain ⟨hparts, halg⟩ := admitted_iff.1 hadmitted
      exact Or.inr ⟨parts, hparts, Or.inr ⟨_, halg, Or.inr ⟨(), checkSignature_eq_ok_iff.2 hsigned,
        Or.inl ⟨.tooDeep, membersOf_tooDeep_iff.2 hdeep, rfl⟩⟩⟩⟩
    · obtain ⟨hparts, halg⟩ := admitted_iff.1 hadmitted
      exact Or.inr ⟨parts, hparts, Or.inr ⟨_, halg, Or.inr ⟨(), checkSignature_eq_ok_iff.2 hsigned,
        Or.inr ⟨claims, membersOf_eq_ok_iff.2 hstated, Or.inl htime⟩⟩⟩⟩
    · obtain ⟨hparts, halg⟩ := admitted_iff.1 hadmitted
      exact Or.inr ⟨parts, hparts, Or.inr ⟨_, halg, Or.inr ⟨(), checkSignature_eq_ok_iff.2 hsigned,
        Or.inr ⟨claims, membersOf_eq_ok_iff.2 hstated, Or.inr ⟨(),
          checkClaims_terms_eq_ok_iff.2 hhold, rfl, hexpected, points, hbroken⟩⟩⟩⟩⟩

/-! ## Validations -/

/-- A validation comes to a fault: the keys cannot be had, or the token comes to one under them. -/
inductive ValidationFault (v : KeyValidator) (p : Policy) (check : Key.Check) (now : Int)
    (remote : Remote) (token : String) (nonce : Option String) (cause : Fault) : Prop where
  | keys (h : KeysMissing v.cache now remote cause)
  | token (document : Value) (had : (v.cache.get now remote).1 = .ok document)
      (h : JudgementFault p check document now token nonce cause)

/-- **A validation comes to a fault in no other way than these.** -/
theorem validate_fault_iff {p : Policy} {keysAddress : Option String} {cache : Option KeyCache}
    {v : KeyValidator} (hv : p.validator keysAddress cache = .ok v) {check : Key.Check} {now : Int}
    {remote : Remote} {token : String} {nonce : Option String} {cause : Fault} :
    (v.validate check now remote (.text token) (Value.ofText? nonce)).1 = .error (.fault cause) ↔
      ValidationFault v p check now remote token nonce cause := by
  have hterms := Policy.terms_validator hv
  unfold KeyValidator.validate
  split
  · next cause' cache' remote' hget =>
    have hmissing : (v.cache.get now remote).1 = .error cause' := by rw [hget]
    constructor
    · intro h
      obtain rfl := Failure.fault.inj (Except.error.inj h)
      exact .keys (get_eq_error_iff.1 hmissing)
    · rintro (h | ⟨document, had, -⟩)
      · rw [Except.error.inj (hmissing.symm.trans (get_eq_error_iff.2 h))]
      · exact absurd (hmissing.symm.trans had) (by simp)
  · next document cache' remote' hget =>
    have hhad : (v.cache.get now remote).1 = .ok document := by rw [hget]
    rw [hterms, judge_terms_fault_iff]
    constructor
    · exact .token document hhad
    · rintro (h | ⟨document', had, h⟩)
      · exact absurd (hhad.symm.trans (get_eq_error_iff.2 h)) (by simp)
      · rw [Except.ok.inj (hhad.symm.trans had)]
        exact h

end RelyingParty.Token
