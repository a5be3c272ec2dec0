import RelyingParty.Proofs.Entries
import RelyingParty.Proofs.Token.Occasion

set_option autoImplicit false

/-! # Claims that should not matter

Of the claims of a token, a validator is said to look at the issuer, the audience, the times, the
subject, the identifier and the nonce. Two tokens that are signed, and that agree on these, should
then be accepted both or not at all.

Two things tell such tokens apart. A token that is bound to an access token, by a claim that is not
among these, is refused, since there is no access token to compare it with. And the search for the
key that signed a token ends at a key that cannot be used under its algorithm, so that the order of
the keys matters. A token with one of the two is `Obstructed`, and nothing else decides besides the
claims that a validator is said to look at: `Attested.accepts_iff`. So two tokens are accepted alike
exactly if these claims are not as promised, or both tokens are obstructed, or neither is:
`accepted_alike_iff`. -/

namespace RelyingParty.Token

/-! ## Agreement -/

/-- The claims that a validator is said to look at. -/
def promised : List String := ["iss", "aud", "exp", "nbf", "iat", "sub", "jti", "nonce"]

/-- Two sets of claims have the same values under some names. -/
def AgreeOn (names : List String) (claims claims' : Claims) : Prop :=
  ∀ name ∈ names, Value.field? claims name = Value.field? claims' name

theorem AgreeOn.symm {names : List String} {claims claims' : Claims}
    (h : AgreeOn names claims claims') : AgreeOn names claims' claims :=
  fun name hname => (h name hname).symm

/-- A claim under another name makes no difference. -/
theorem agreeOn_cons {names : List String} {name : String} (h : name ∉ names) (v : Value)
    (claims : Claims) : AgreeOn names claims ((.text name, v) :: claims) := by
  intro other hother
  have hne : ¬ (Value.text name).same (.text other) = true := by
    rw [Value.same_text_iff]
    intro heq
    exact h (Value.text.inj heq ▸ hother)
  exact (if_neg hne).symm

/-- The claims under some names. -/
def only (names : List String) (claims : Claims) : Claims :=
  Entries.without claims fun key => !(names.map Value.text).any key.same

theorem field?_only (names : List String) (claims : Claims) (name : String) :
    Value.field? (only names claims) name
      = if name ∈ names then Value.field? claims name else none := by
  have hkept : (names.map Value.text).any (Value.text name).same = decide (name ∈ names) := by
    rw [Bool.eq_iff_iff, any_same_map_text_iff, decide_eq_true_iff]
    simp only [Value.text.injEq, exists_eq_right']
  have hexact : Entries.IsExact (Value.text name) := fun _ => Value.same_text_right_iff
  rw [Value.field?, only, Entries.get?_without_of_exact _ _ hexact, hkept]
  by_cases hname : name ∈ names
  · simp [hname, Value.field?]
  · simp [hname]

theorem agreeOn_only (names : List String) (claims : Claims) :
    AgreeOn names (only names claims) claims := by
  intro name hname
  rw [field?_only, if_pos hname]

theorem StatesTime.of_field?_eq {claims claims' : Claims} {claim : TimeClaim} {P : Int → Prop}
    (h : StatesTime claims claim P)
    (heq : Value.field? claims claim.name = Value.field? claims' claim.name) :
    StatesTime claims' claim P := by
  intro v hv
  exact h v (heq.trans hv)

/-- Whether claims hold depends on the promised ones, and on there being no access token. -/
theorem Hold.of_agree {p : Policy} {now : Int} {claims claims' : Claims} (h : Hold p now claims)
    (hagree : AgreeOn promised claims claims') (hunbound : Value.field? claims' "at_hash" = none) :
    Hold p now claims' where
  issuer := (hagree "iss" (by decide)).symm.trans h.issuer
  audience v hv := h.audience v ((hagree "aud" (by decide)).trans hv)
  expiration := h.expiration.of_field?_eq (hagree "exp" (by decide))
  notBefore := h.notBefore.of_field?_eq (hagree "nbf" (by decide))
  issuedAt := h.issuedAt.of_field?_eq (hagree "iat" (by decide))
  subject v hv := h.subject v ((hagree "sub" (by decide)).trans hv)
  identifier v hv := h.identifier v ((hagree "jti" (by decide)).trans hv)
  unbound := hunbound

/-- Of some claims, those that a validator is said to look at hold by themselves at a moment, and
    answer a nonce. -/
structure AsPromised (p : Policy) (now : Int) (nonce : Option String) (claims : Claims) : Prop where
  hold : Hold p now (only promised claims)
  answered : ∀ n, nonce = some n → Value.field? claims "nonce" = some (.text n)

theorem AsPromised.of_agree {p : Policy} {now : Int} {nonce : Option String}
    {claims claims' : Claims} (h : AsPromised p now nonce claims)
    (hagree : AgreeOn promised claims claims') : AsPromised p now nonce claims' where
  hold := by
    have hpromised : AgreeOn promised (only promised claims) (only promised claims') := by
      intro name hname
      rw [agreeOn_only promised claims name hname, agreeOn_only promised claims' name hname]
      exact hagree name hname
    refine h.hold.of_agree hpromised ?_
    rw [field?_only, if_neg (by decide)]
  answered n hn := (hagree "nonce" (by decide)).symm.trans (h.answered n hn)

/-- Claims hold exactly if the promised ones do and there is no access token. -/
theorem hold_iff_only {p : Policy} {now : Int} {claims : Claims} :
    Hold p now claims ↔
      Hold p now (only promised claims) ∧ Value.field? claims "at_hash" = none := by
  constructor
  · intro h
    refine ⟨h.of_agree (agreeOn_only promised claims).symm ?_, h.unbound⟩
    rw [field?_only, if_neg (by decide)]
  · rintro ⟨h, hunbound⟩
    exact h.of_agree (agreeOn_only promised claims) hunbound

/-! ## The key that signed a token -/

section Keys

variable {check : Key.Check} {document name : Value} {text signature : Bytes}

/-- The search for the key that signed a token ends at a key that cannot be used. -/
def Blocked (check : Key.Check) (document name : Value) (text signature : Bytes) : Prop :=
  ∃ earlier key later cause, Key.candidates document = .ok (earlier ++ key :: later)
    ∧ (∀ k ∈ earlier, check name k text signature = .ok false)
    ∧ check name key text signature = .error cause

/-- A search among keys one of which signed the text does not go through all of them in vain. -/
theorem anyVerifies_ne_false {keys : List Value} {key : Value} (hmem : key ∈ keys)
    (hkey : check name key text signature = .ok true) :
    Key.anyVerifies check name text signature keys ≠ .ok false := by
  induction keys with
  | nil => exact absurd hmem (by simp)
  | cons first rest ih =>
    rw [Key.anyVerifies]
    split
    · simp
    · simp
    · next hfirst =>
      rcases List.mem_cons.1 hmem with rfl | hrest
      · exact absurd (hfirst.symm.trans hkey) (by simp)
      · exact ih hrest

/-- The key that signed a token is found, unless the search for it is blocked. -/
theorem signed_iff_not_blocked {keys : List Value} {key : Value}
    (hkeys : Key.candidates document = .ok keys) (hmem : key ∈ keys)
    (hkey : check name key text signature = .ok true) :
    Signed check document name text signature ↔ ¬ Blocked check document name text signature := by
  have hsigned : Signed check document name text signature ↔
      Key.anyVerifies check name text signature keys = .ok true := by
    rw [anyVerifies_eq_iff (by simp)]
    simp only [Signed, hkeys, Except.ok.injEq]
  have hblocked : Blocked check document name text signature ↔
      ∃ cause, Key.anyVerifies check name text signature keys = .error cause := by
    constructor
    · rintro ⟨earlier, k, later, cause, hk, hearlier, herror⟩
      obtain rfl := Except.ok.inj (hkeys.symm.trans hk)
      exact ⟨cause, (anyVerifies_eq_iff (by simp)).2 ⟨earlier, k, later, rfl, hearlier, herror⟩⟩
    · rintro ⟨cause, h⟩
      obtain ⟨earlier, k, later, rfl, hearlier, herror⟩ := (anyVerifies_eq_iff (by simp)).1 h
      exact ⟨earlier, k, later, cause, hkeys, hearlier, herror⟩
  rw [hsigned, hblocked]
  cases hfound : Key.anyVerifies check name text signature keys with
  | error cause => simp
  | ok found =>
    cases found with
    | true => simp
    | false => exact absurd hfound (anyVerifies_ne_false hmem hkey)

end Keys

/-! ## Signed tokens -/

section Tokens

variable {p : Policy} {check : Key.Check} {document : Value} {token token' : String}
  {claims claims' : Claims}

/-- A token is signed by one of the keys of a document, under an algorithm that is allowed, and
    states claims. -/
inductive Attested (p : Policy) (check : Key.Check) (document : Value) (token : String)
    (claims : Claims) : Prop where
  | intro (parts : Compact) (name : String) (keys : List Value) (key : Value)
      (admitted : Admitted p token parts name) (published : Key.candidates document = .ok keys)
      (mem : key ∈ keys)
      (verified : check (.text name) key parts.signingInput parts.signature = .ok true)
      (stated : Json.readBytes .utf8 parts.payload = .ok (.dict claims))

/-- A token is refused for what a validator is not said to look at: the search for the key that
    signed it is blocked, or it is bound to an access token. -/
inductive Obstructed (p : Policy) (check : Key.Check) (document : Value) (token : String)
    (claims : Claims) : Prop where
  | search (parts : Compact) (name : String) (admitted : Admitted p token parts name)
      (h : Blocked check document (.text name) parts.signingInput parts.signature)
  | bound (h : (Value.field? claims "at_hash").isSome = true)

theorem Admitted.unique {parts parts' : Compact} {name name' : String}
    (h : Admitted p token parts name) (h' : Admitted p token parts' name') :
    parts' = parts ∧ name' = name := by
  obtain ⟨hparts, halg⟩ := admitted_iff.1 h
  obtain ⟨hparts', halg'⟩ := admitted_iff.1 h'
  obtain rfl := Except.ok.inj (hparts.symm.trans hparts')
  exact ⟨rfl, (Value.text.inj (Except.ok.inj (halg.symm.trans halg'))).symm⟩

/-- A signed token is accepted exactly if its claims are as promised and it is not obstructed. -/
theorem Attested.accepts_iff (h : Attested p check document token claims) (nonce : Option String)
    (o : Occasion p document) :
    o.Accepts check (.text token) (Value.ofText? nonce) ↔
      AsPromised p o.now nonce claims ∧ ¬ Obstructed p check document token claims := by
  obtain ⟨parts, name, keys, key, hadmitted, hkeys, hmem, hverified, hstated⟩ := h
  have hsigned : Signed check document (.text name) parts.signingInput parts.signature ↔
      ¬ Blocked check document (.text name) parts.signingInput parts.signature :=
    signed_iff_not_blocked hkeys hmem hverified
  simp only [Occasion.Accepts, o.verdict_eq_judge, judge_terms_eq_ok_iff]
  constructor
  · rintro ⟨result, parts', name', hadmitted', hsigned', hstated', hhold, hanswered⟩
    obtain ⟨rfl, rfl⟩ := hadmitted.unique hadmitted'
    obtain rfl := Value.dict.inj (Except.ok.inj (hstated.symm.trans hstated'))
    obtain ⟨hhold, hunbound⟩ := hold_iff_only.1 hhold
    refine ⟨⟨hhold, hanswered⟩, ?_⟩
    rintro (⟨parts', name', hadmitted', hblocked⟩ | hbound)
    · obtain ⟨rfl, rfl⟩ := hadmitted.unique hadmitted'
      exact hsigned.1 hsigned' hblocked
    · rw [hunbound] at hbound
      exact absurd hbound (by simp)
  · rintro ⟨⟨hhold, hanswered⟩, hfree⟩
    have hunbound : Value.field? claims "at_hash" = none := by
      rw [← Option.not_isSome_iff_eq_none]
      exact fun hbound => hfree (.bound hbound)
    exact ⟨claims, parts, name, hadmitted,
      hsigned.2 fun hblocked => hfree (.search _ _ hadmitted hblocked), hstated,
      hold_iff_only.2 ⟨hhold, hunbound⟩, hanswered⟩

/-- **Two signed tokens that agree on the promised claims are accepted both or not at all exactly
    if**, should these claims be as promised, both tokens are obstructed or neither is. -/
theorem accepted_alike_iff (h : Attested p check document token claims)
    (h' : Attested p check document token' claims') (hagree : AgreeOn promised claims claims')
    (nonce : Option String) (o : Occasion p document) :
    (o.Accepts check (.text token) (Value.ofText? nonce) ↔
        o.Accepts check (.text token') (Value.ofText? nonce)) ↔
      (AsPromised p o.now nonce claims →
        (Obstructed p check document token claims ↔
          Obstructed p check document token' claims')) := by
  have hpromised : AsPromised p o.now nonce claims' ↔ AsPromised p o.now nonce claims :=
    ⟨fun hclaims => hclaims.of_agree hagree.symm, fun hclaims => hclaims.of_agree hagree⟩
  rw [h.accepts_iff, h'.accepts_iff, hpromised, and_congr_right_iff]
  exact imp_congr_right fun _ => not_iff_not

end Tokens

/-! ## Tokens with another claim -/

theorem attested_exampleToken {payload : Bytes} {claims : Claims}
    (h : claimsOfPayload payload = .ok claims) :
    Attested examplePolicy Key.verify exampleKeys (exampleToken payload) claims :=
  .intro (exampleParts payload) "HS256" [exampleKeys] exampleKeys (admitted_exampleToken payload)
    (by cbv) (List.mem_singleton.2 rfl) (verify_exampleParts payload) (membersOf_eq_ok_iff.1 h)

/-- The text of claims that state nothing but their issuer. -/
def plainPayload : Bytes := Text.asciiBytes "\x7b\"iss\":\"i\"\x7d".toList

theorem claimsOfPayload_plainPayload :
    claimsOfPayload plainPayload = .ok [(.text "iss", .text "i")] := by cbv

/-- The text of claims with a group besides. -/
def groupPayload : Bytes := Text.asciiBytes "\x7b\"groups\":\"g\",\"iss\":\"i\"\x7d".toList

theorem claimsOfPayload_groupPayload :
    claimsOfPayload groupPayload = .ok [(.text "groups", .text "g"), (.text "iss", .text "i")] := by
  cbv

/-- A group makes no difference on any occasion. -/
theorem group_tells_nothing_apart :
    ∃ claims claims',
      Attested examplePolicy Key.verify exampleKeys (exampleToken plainPayload) claims
      ∧ Attested examplePolicy Key.verify exampleKeys (exampleToken groupPayload) claims'
      ∧ AgreeOn promised claims claims'
      ∧ ∀ (nonce : Option String) (o : Occasion examplePolicy exampleKeys),
        o.Accepts Key.verify (.text (exampleToken plainPayload)) (Value.ofText? nonce) ↔
          o.Accepts Key.verify (.text (exampleToken groupPayload)) (Value.ofText? nonce) := by
  have h := attested_exampleToken claimsOfPayload_plainPayload
  have h' := attested_exampleToken claimsOfPayload_groupPayload
  have hagree : AgreeOn promised [(.text "iss", .text "i")]
      [(.text "groups", .text "g"), (.text "iss", .text "i")] := agreeOn_cons (by decide) _ _
  -- both are accepted at some moment, and so neither is obstructed
  have haccepts :
      (exampleOccasion 0).Accepts Key.verify (.text (exampleToken plainPayload)) .null :=
    ⟨_, verdict_exampleToken none claimsOfPayload_plainPayload (by cbv) rfl⟩
  have haccepts' :
      (exampleOccasion 0).Accepts Key.verify (.text (exampleToken groupPayload)) .null :=
    ⟨_, verdict_exampleToken none claimsOfPayload_groupPayload (by cbv) rfl⟩
  have hfree := ((h.accepts_iff none _).1 haccepts).2
  have hfree' := ((h'.accepts_iff none _).1 haccepts').2
  refine ⟨_, _, h, h', hagree, fun nonce o => ?_⟩
  exact (accepted_alike_iff h h' hagree nonce o).2 fun _ => iff_of_false hfree hfree'

/-- The text of claims that are bound to an access token. -/
def boundPayload : Bytes := Text.asciiBytes "\x7b\"at_hash\":\"h\",\"iss\":\"i\"\x7d".toList

/-- An access token makes a difference, although nothing is said about it. -/
theorem access_token_tells_apart :
    ∃ claims claims',
      Attested examplePolicy Key.verify exampleKeys (exampleToken plainPayload) claims
      ∧ Attested examplePolicy Key.verify exampleKeys (exampleToken boundPayload) claims'
      ∧ AgreeOn promised claims claims'
      ∧ (exampleOccasion 0).Accepts Key.verify (.text (exampleToken plainPayload)) .null
      ∧ ¬ (exampleOccasion 0).Accepts Key.verify (.text (exampleToken boundPayload)) .null := by
  have hclaims : claimsOfPayload boundPayload
      = .ok [(.text "at_hash", .text "h"), (.text "iss", .text "i")] := by cbv
  have hbound : Value.field? [(.text "at_hash", .text "h"), (.text "iss", .text "i")] "at_hash"
      = some (.text "h") := by cbv
  refine ⟨_, _, attested_exampleToken claimsOfPayload_plainPayload, attested_exampleToken hclaims,
    agreeOn_cons (by decide) _ _,
    ⟨_, verdict_exampleToken none claimsOfPayload_plainPayload (by cbv) rfl⟩, ?_⟩
  intro haccepts
  have hfree := (((attested_exampleToken hclaims).accepts_iff none _).1 haccepts).2
  exact hfree (.bound (by rw [hbound]; rfl))

end RelyingParty.Token
