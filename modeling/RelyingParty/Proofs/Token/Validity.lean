import RelyingParty.Proofs.Token.Audience
import RelyingParty.Proofs.Token.Policy

set_option autoImplicit false

/-! # Claims that hold

`Hold` says what the claims of a token have to be like for a policy at a moment, and
`checkClaims_terms_eq_ok_iff` that this is what is checked. A check comes to a fault instead of a
verdict only where a time is stated by something that is no time: `checkClaims_terms_fault_iff`. The
nonce is checked last, and is at fault only where it is broken text. -/

namespace RelyingParty.Token

/-! ## The times -/

section Times

variable {claims : Claims} {claim : TimeClaim} {now leeway : Int} {cause : Fault}

/-- A value is no time, and not even one that a verdict is given on: a number without end, or a
    value of a type that is never a number. -/
inductive NoTime (v : Value) : Fault → Prop where
  | endless (h : v.toInteger = .error .infinite) : NoTime v .outOfRange
  | kind (h : v.toInteger = .error .kind) : NoTime v .wrongType

/-- A time that a claim states, if it is there, is a number with some property. -/
def StatesTime (claims : Claims) (claim : TimeClaim) (property : Int → Prop) : Prop :=
  ∀ v, Value.field? claims claim.name = some v → ∃ t, v.toInteger = .ok t ∧ property t

/-- A time that is read is not there, or the number that is stated. -/
theorem time?_eq_ok_iff {stated : Option Int} :
    time? claims claim = .ok stated ↔
      (Value.field? claims claim.name = none ∧ stated = none)
        ∨ ∃ v t, Value.field? claims claim.name = some v ∧ v.toInteger = .ok t
          ∧ stated = some t := by
  unfold time?
  cases Value.field? claims claim.name with
  | none => simp [eq_comm]
  | some v =>
    cases hv : v.toInteger with
    | ok t => simp [hv, eq_comm]
    | error e => cases e <;> simp [hv]

theorem time?_fault_iff :
    time? claims claim = .error (.fault cause) ↔
      ∃ v, Value.field? claims claim.name = some v ∧ NoTime v cause := by
  have hno : ∀ v : Value, NoTime v cause ↔
      (v.toInteger = .error .infinite ∧ cause = .outOfRange)
        ∨ (v.toInteger = .error .kind ∧ cause = .wrongType) := by
    intro v
    constructor
    · rintro (h | h)
      · exact Or.inl ⟨h, rfl⟩
      · exact Or.inr ⟨h, rfl⟩
    · rintro (⟨h, rfl⟩ | ⟨h, rfl⟩)
      · exact .endless h
      · exact .kind h
  unfold time?
  cases Value.field? claims claim.name with
  | none => simp
  | some v =>
    cases hv : v.toInteger with
    | ok t => simp [hv, hno]
    | error e => cases e <;> simp [hv, hno, eq_comm]

/-- A time that is compared passes if it is not stated, or is a number that compares well. -/
theorem time?_bind_eq_ok_iff {compare : Option Int → Except (Failure ClaimError) Unit}
    {property : Int → Prop} (hnone : compare none = .ok ())
    (hsome : ∀ t, compare (some t) = .ok () ↔ property t) :
    (time? claims claim >>= compare) = .ok () ↔ StatesTime claims claim property := by
  rw [bind_eq_ok_iff]
  constructor
  · rintro ⟨stated, hstated, hcompare⟩ v hv
    rcases time?_eq_ok_iff.1 hstated with ⟨habsent, -⟩ | ⟨v', t, hv', ht, rfl⟩
    · exact absurd (habsent.symm.trans hv) (by simp)
    · obtain rfl := Option.some.inj (hv.symm.trans hv')
      exact ⟨t, ht, (hsome t).1 hcompare⟩
  · intro h
    cases hv : Value.field? claims claim.name with
    | none => exact ⟨none, time?_eq_ok_iff.2 (Or.inl ⟨hv, rfl⟩), hnone⟩
    | some v =>
      obtain ⟨t, ht, hproperty⟩ := h v hv
      exact ⟨some t, time?_eq_ok_iff.2 (Or.inr ⟨v, t, hv, ht, rfl⟩), (hsome t).2 hproperty⟩

/-- The time of issue is read, and compared with nothing. -/
theorem checkIssuedAt_eq_bind :
    checkIssuedAt claims = (time? claims .issuedAt >>= fun _ => .ok ()) := by
  unfold checkIssuedAt
  cases time? claims .issuedAt <;> rfl

theorem checkIssuedAt_eq_ok_iff :
    checkIssuedAt claims = .ok () ↔ StatesTime claims .issuedAt fun _ => True := by
  rw [checkIssuedAt_eq_bind]
  exact time?_bind_eq_ok_iff rfl fun t => by simp

theorem checkNotBefore_eq_ok_iff :
    checkNotBefore claims now (.int leeway) = .ok () ↔
      StatesTime claims .notBefore fun t => t ≤ now + leeway := by
  refine time?_bind_eq_ok_iff rfl fun t => ?_
  show (if decide (now + leeway < t) then _ else _) = _ ↔ _
  by_cases hearly : now + leeway < t
  · rw [if_pos (decide_eq_true hearly)]
    exact iff_of_false (by simp) (Int.not_le.2 hearly)
  · rw [if_neg (mt of_decide_eq_true hearly)]
    exact iff_of_true rfl (Int.not_lt.1 hearly)

theorem checkExpiration_eq_ok_iff :
    checkExpiration claims now (.int leeway) = .ok () ↔
      StatesTime claims .expiration fun t => now - leeway ≤ t := by
  refine time?_bind_eq_ok_iff rfl fun t => ?_
  show (if decide (t < now - leeway) then _ else _) = _ ↔ _
  by_cases hlate : t < now - leeway
  · rw [if_pos (decide_eq_true hlate)]
    exact iff_of_false (by simp) (Int.not_le.2 hlate)
  · rw [if_neg (mt of_decide_eq_true hlate)]
    exact iff_of_true rfl (Int.not_lt.1 hlate)

/-- A time is stated by what is no time. -/
def StatesNoTime (claims : Claims) (claim : TimeClaim) (cause : Fault) : Prop :=
  ∃ v, Value.field? claims claim.name = some v ∧ NoTime v cause

/-- A time that is compared with a number is at fault only if it is no time. -/
theorem time?_bind_fault_iff {compare : Option Int → Except (Failure ClaimError) Unit}
    (hcompare : ∀ stated, compare stated ≠ .error (.fault cause)) :
    (time? claims claim >>= compare) = .error (.fault cause) ↔ StatesNoTime claims claim cause := by
  rw [bind_eq_error_iff, time?_fault_iff]
  constructor
  · rintro (h | ⟨stated, -, h⟩)
    · exact h
    · exact absurd h (hcompare stated)
  · exact Or.inl

theorem checkIssuedAt_fault_iff :
    checkIssuedAt claims = .error (.fault cause) ↔ StatesNoTime claims .issuedAt cause := by
  rw [checkIssuedAt_eq_bind]
  exact time?_bind_fault_iff fun _ => by simp

theorem checkNotBefore_fault_iff :
    checkNotBefore claims now (.int leeway) = .error (.fault cause) ↔
      StatesNoTime claims .notBefore cause := by
  refine time?_bind_fault_iff fun stated => ?_
  cases stated with
  | none => simp
  | some t =>
    show (if decide (now + leeway < t) then _ else _) ≠ _
    split <;> simp

theorem checkExpiration_fault_iff :
    checkExpiration claims now (.int leeway) = .error (.fault cause) ↔
      StatesNoTime claims .expiration cause := by
  refine time?_bind_fault_iff fun stated => ?_
  cases stated with
  | none => simp
  | some t =>
    show (if decide (t < now - leeway) then _ else _) ≠ _
    split <;> simp

end Times

/-! ## The other claims -/

section Claims

variable {claims : Claims} {p : Policy} {now : Int} {cause : Fault}

theorem checkIssuer_eq_ok_iff {issuer : String} :
    checkIssuer claims issuer = .ok () ↔ Value.field? claims "iss" = some (.text issuer) := by
  unfold checkIssuer
  split
  · next s hs =>
    rw [hs]
    split
    · next heq => simp [heq]
    · next hne => simp [hne]
  · next hne =>
    constructor
    · intro h
      exact absurd h (by simp)
    · intro h
      exact absurd h (hne issuer)

theorem checkText_eq_ok_iff {name : String} {error : ClaimError} :
    checkText claims name error = .ok () ↔
      ∀ v, Value.field? claims name = some v → v.isText = true := by
  unfold checkText
  cases Value.field? claims name with
  | none => simp
  | some v => cases hv : v.isText <;> simp [hv]

theorem checkUnbound_eq_ok_iff :
    checkUnbound claims = .ok () ↔ Value.field? claims "at_hash" = none := by
  unfold checkUnbound
  cases Value.field? claims "at_hash" <;> simp

theorem checkAudience_ne_fault {client : Value} :
    checkAudience claims client ≠ .error (.fault cause) := by
  unfold checkAudience
  split
  · simp
  · split
    · simp
    · split <;> simp

theorem checkIssuer_ne_fault {issuer : String} :
    checkIssuer claims issuer ≠ .error (.fault cause) := by
  unfold checkIssuer
  split
  · split <;> simp
  · simp

theorem checkText_ne_fault {name : String} {error : ClaimError} :
    checkText claims name error ≠ .error (.fault cause) := by
  unfold checkText
  split
  · simp
  · split <;> simp

theorem checkUnbound_ne_fault : checkUnbound claims ≠ .error (.fault cause) := by
  unfold checkUnbound
  split <;> simp

/-- Claims hold for a policy at a moment. -/
structure Hold (p : Policy) (now : Int) (claims : Claims) : Prop where
  issuer : Value.field? claims "iss" = some (.text p.issuer)
  audience : ∀ v, Value.field? claims "aud" = some v → IsAudienceOf v (.text p.clientId)
  expiration : StatesTime claims .expiration fun t => now - p.leeway ≤ t
  notBefore : StatesTime claims .notBefore fun t => t ≤ now + p.leeway
  issuedAt : StatesTime claims .issuedAt fun _ => True
  subject : ∀ v, Value.field? claims "sub" = some v → v.isText = true
  identifier : ∀ v, Value.field? claims "jti" = some v → v.isText = true
  unbound : Value.field? claims "at_hash" = none

/-- Claims hold exactly if they pass the checks. -/
theorem checkClaims_terms_eq_ok_iff :
    p.terms.checkClaims now claims = .ok () ↔ Hold p now claims := by
  rw [Terms.checkClaims, mapError_eq_ok_iff, checkClaims_eq_ok_iff]
  show _ ∧ _ ∧ checkNotBefore claims now (.int p.leeway) = _
    ∧ checkExpiration claims now (.int p.leeway) = _ ∧ checkAudience claims (.text p.clientId) = _
    ∧ checkIssuer claims p.issuer = _ ∧ _ ∧ _ ∧ _ ↔ _
  rw [checkIssuedAt_eq_ok_iff, checkNotBefore_eq_ok_iff, checkExpiration_eq_ok_iff,
    checkAudience_eq_ok_iff, checkIssuer_eq_ok_iff, checkText_eq_ok_iff, checkText_eq_ok_iff,
    checkUnbound_eq_ok_iff]
  constructor
  · rintro ⟨-, hiat, hnbf, hexp, haud, hiss, hsub, hjti, hbound⟩
    exact ⟨hiss, haud, hexp, hnbf, hiat, hsub, hjti, hbound⟩
  · intro h
    exact ⟨rfl, h.issuedAt, h.notBefore, h.expiration, h.audience, h.issuer, h.subject,
      h.identifier, h.unbound⟩

/-- A time is stated by what is no time, and the times that are looked at before it are in order. -/
inductive TimeFault (p : Policy) (now : Int) (claims : Claims) (cause : Fault) : Prop where
  | issuedAt (h : StatesNoTime claims .issuedAt cause)
  | notBefore (issued : StatesTime claims .issuedAt fun _ => True)
      (h : StatesNoTime claims .notBefore cause)
  | expiration (issued : StatesTime claims .issuedAt fun _ => True)
      (valid : StatesTime claims .notBefore fun t => t ≤ now + p.leeway)
      (h : StatesNoTime claims .expiration cause)

theorem checkClaims_terms_fault_iff :
    p.terms.checkClaims now claims = .error (.fault cause) ↔ TimeFault p now claims cause := by
  rw [Terms.checkClaims, mapError_map_eq_fault_iff]
  show checkClaims claims p.issuer (.text p.clientId) now (.int p.leeway) = _ ↔ _
  unfold checkClaims
  simp only [check_bind_eq_error_iff, checkIssuedAt_fault_iff, checkIssuedAt_eq_ok_iff,
    checkNotBefore_fault_iff, checkNotBefore_eq_ok_iff, checkExpiration_fault_iff,
    checkAudience_ne_fault, checkIssuer_ne_fault, checkText_ne_fault, checkUnbound_ne_fault,
    and_false, or_false, checkClient]
  constructor
  · rintro (h | ⟨-, h | ⟨issued, h | ⟨valid, h⟩⟩⟩)
    · exact absurd h (by simp)
    · exact .issuedAt h
    · exact .notBefore issued h
    · exact .expiration issued valid h
  · rintro (h | ⟨issued, h⟩ | ⟨issued, valid, h⟩)
    · exact Or.inr ⟨trivial, Or.inl h⟩
    · exact Or.inr ⟨trivial, Or.inr ⟨issued, Or.inl h⟩⟩
    · exact Or.inr ⟨trivial, Or.inr ⟨issued, Or.inr ⟨valid, h⟩⟩⟩

/-! ## The nonce -/

/-- A nonce that is expected is compared with text only. -/
theorem checkNonce_text (n : String) :
    Terms.checkNonce (.text n) claims =
      match Value.fieldD claims "nonce" with
      | .text s => if s = n then .ok () else .error (.refused .nonce)
      | .brokenText _ => .error (.fault .notEncodable)
      | _ => .error (.refused .nonce) := rfl

/-- A token answers the nonce that is expected, if one is. -/
theorem checkNonce_eq_ok_iff {nonce : Option String} :
    Terms.checkNonce (Value.ofText? nonce) claims = .ok () ↔
      ∀ n, nonce = some n → Value.field? claims "nonce" = some (.text n) := by
  cases nonce with
  | none => simp [Terms.checkNonce, Value.ofText?, Value.isNull]
  | some n =>
    have hmember : (∀ m, some n = some m → Value.field? claims "nonce" = some (.text m)) ↔
        Value.fieldD claims "nonce" = .text n := by
      rw [Value.fieldD_eq_iff (by simp)]
      simp
    rw [hmember, Value.ofText?, checkNonce_text]
    split
    · next s hs =>
      rw [hs]
      by_cases heq : s = n <;> simp [heq]
    · next points hpoints => simp [hpoints]
    · next hne _ =>
      constructor
      · intro h
        exact absurd h (by simp)
      · intro h
        exact absurd h (hne n)

/-- A nonce is at fault only if one is expected and the token has text that is broken. -/
theorem checkNonce_fault_iff {nonce : Option String} :
    Terms.checkNonce (Value.ofText? nonce) claims = .error (.fault cause) ↔
      cause = .notEncodable ∧ nonce.isSome = true
        ∧ ∃ points, Value.field? claims "nonce" = some (.brokenText points) := by
  cases nonce with
  | none => simp [Terms.checkNonce, Value.ofText?, Value.isNull]
  | some n =>
    have hmember : (∃ points, Value.field? claims "nonce" = some (.brokenText points)) ↔
        ∃ points, Value.fieldD claims "nonce" = .brokenText points := by
      simp only [Value.fieldD_eq_iff (v := .brokenText _) (by simp)]
    rw [hmember, Value.ofText?, checkNonce_text]
    split
    · next s hs =>
      rw [hs]
      split <;> simp
    · next points hpoints => simp [hpoints, eq_comm]
    · next _ hne =>
      constructor
      · intro h
        exact absurd h (by simp)
      · rintro ⟨-, -, points, h⟩
        exact absurd h (hne points)

end Claims

end RelyingParty.Token
