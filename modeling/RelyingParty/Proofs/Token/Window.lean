import RelyingParty.Proofs.Token.Occasion

set_option autoImplicit false

/-! # The time of a token

The moments at which a token is accepted are an interval, with both ends in it: from the leeway
before the token becomes valid to the leeway after it expires. `accepted_exactly_inTime` says so of
all validations of a token that is accepted once, whatever their moment and their leeway.

The time of issue is no end of that interval. A token that was issued later than it is looked at is
refused only if it also says that it is not valid before some time that is no earlier:
`issued_before_use_iff`. -/

namespace RelyingParty.Token

/-! ## Moments in time -/

/-- A moment lies between the times that claims state, with a leeway at both ends. -/
structure InTime (claims : Claims) (leeway now : Int) : Prop where
  begun : ∀ v t, Value.field? claims "nbf" = some v → v.toInteger = .ok t → t - leeway ≤ now
  lasting : ∀ v t, Value.field? claims "exp" = some v → v.toInteger = .ok t → now ≤ t + leeway

theorem InTime.mono {claims : Claims} {leeway leeway' now : Int} (h : InTime claims leeway now)
    (hle : leeway ≤ leeway') : InTime claims leeway' now where
  begun v t hv ht := by
    have hbegun := h.begun v t hv ht
    omega
  lasting v t hv ht := by
    have hlasting := h.lasting v t hv ht
    omega

theorem InTime.between {claims : Claims} {leeway first now last : Int}
    (hfirst : InTime claims leeway first) (hlast : InTime claims leeway last) (h : first ≤ now)
    (h' : now ≤ last) : InTime claims leeway now where
  begun v t hv ht := Int.le_trans (hfirst.begun v t hv ht) h
  lasting v t hv ht := Int.le_trans h' (hlast.lasting v t hv ht)

/-- As long as a token has begun, it can be looked at earlier. -/
theorem InTime.earlier {claims : Claims} {leeway now now' : Int} (h : InTime claims leeway now)
    (hle : now' ≤ now)
    (begun : ∀ v t, Value.field? claims "nbf" = some v → v.toInteger = .ok t → t - leeway ≤ now') :
    InTime claims leeway now' where
  begun := begun
  lasting v t hv ht := Int.le_trans hle (h.lasting v t hv ht)

/-- The moments of a token reach back without end unless it has a time at which it begins, and none
    of them is too early for a time of issue exactly if that is no later. -/
theorem InTime.never_before_iff {claims : Claims} {leeway now issued : Int}
    (h : InTime claims leeway now) (hstated : StatesTime claims .notBefore fun _ => True) :
    (∀ now', InTime claims leeway now' → issued ≤ now' + leeway) ↔
      ∃ v start, Value.field? claims "nbf" = some v ∧ v.toInteger = .ok start ∧ issued ≤ start := by
  constructor
  · intro hnever
    cases hv : Value.field? claims "nbf" with
    | none =>
      have hin : InTime claims leeway (min now (issued - leeway - 1)) :=
        h.earlier (Int.min_le_left ..) fun v t hv' => absurd (hv.symm.trans hv') (by simp)
      have hle := hnever _ hin
      omega
    | some v =>
      obtain ⟨start, hstart, -⟩ := hstated v hv
      have hin : InTime claims leeway (start - leeway) := by
        refine h.earlier (h.begun v start hv hstart) fun v' t hv' ht => ?_
        obtain rfl := Option.some.inj (hv.symm.trans hv')
        obtain rfl := Except.ok.inj (hstart.symm.trans ht)
        exact Int.le_refl _
      have hle := hnever _ hin
      exact ⟨v, start, rfl, hstart, by omega⟩
  · rintro ⟨v, start, hv, hstart, hle⟩ now' hin
    have hbegun := hin.begun v start hv hstart
    omega

/-- A time that is stated well once is stated well whenever it is as it has to be. -/
theorem statesTime_iff_of_statesTime {claims : Claims} {claim : TimeClaim} {P Q : Int → Prop}
    (h : StatesTime claims claim P) :
    StatesTime claims claim Q ↔
      ∀ v t, Value.field? claims claim.name = some v → v.toInteger = .ok t → Q t := by
  constructor
  · intro hQ v t hv ht
    obtain ⟨t', ht', hproperty⟩ := hQ v hv
    obtain rfl := Except.ok.inj (ht.symm.trans ht')
    exact hproperty
  · intro hQ v hv
    obtain ⟨t, ht, -⟩ := h v hv
    exact ⟨t, ht, hQ v t hv ht⟩

/-- Of claims that hold once, only the times have to be looked at again. -/
theorem hold_iff_inTime {p : Policy} {earlier now leeway : Int} {claims : Claims}
    (h : Hold p earlier claims) : Hold { p with leeway } now claims ↔ InTime claims leeway now := by
  have hexp : StatesTime claims .expiration (fun t => now - leeway ≤ t) ↔
      ∀ v t, Value.field? claims "exp" = some v → v.toInteger = .ok t → now - leeway ≤ t :=
    statesTime_iff_of_statesTime h.expiration
  have hnbf : StatesTime claims .notBefore (fun t => t ≤ now + leeway) ↔
      ∀ v t, Value.field? claims "nbf" = some v → v.toInteger = .ok t → t ≤ now + leeway :=
    statesTime_iff_of_statesTime h.notBefore
  constructor
  · intro hhold
    refine ⟨fun v t hv ht => ?_, fun v t hv ht => ?_⟩
    · exact Int.sub_right_le_of_le_add (hnbf.1 hhold.notBefore v t hv ht)
    · exact Int.le_add_of_sub_right_le (hexp.1 hhold.expiration v t hv ht)
  · intro hin
    refine ⟨h.issuer, h.audience, hexp.2 fun v t hv ht => ?_, hnbf.2 fun v t hv ht => ?_,
      h.issuedAt, h.subject, h.identifier, h.unbound⟩
    · exact Int.sub_right_le_of_le_add (hin.lasting v t hv ht)
    · exact Int.le_add_of_sub_right_le (hin.begun v t hv ht)

/-! ## Moments of acceptance -/

section Window

variable {p : Policy} {document : Value} {check : Key.Check} {token nonce : Value} {claims : Claims}

/-- A token that is accepted once is accepted when it is in time. -/
theorem Occasion.verdict_eq_ok_iff_inTime {o : Occasion p document}
    (h : o.verdict check token nonce = .ok claims) {leeway : Int}
    (o' : Occasion { p with leeway } document) {claims' : Claims} :
    o'.verdict check token nonce = .ok claims' ↔
      claims' = claims ∧ InTime claims leeway o'.now := by
  obtain ⟨hgenuine, hhold⟩ := o.verdict_eq_ok_iff.1 h
  rw [o'.verdict_eq_ok_iff_of_genuine (genuine_leeway_iff.2 hgenuine), hold_iff_inTime hhold]

theorem Occasion.accepts_iff_inTime {o : Occasion p document}
    (h : o.verdict check token nonce = .ok claims) {leeway : Int}
    (o' : Occasion { p with leeway } document) :
    o'.Accepts check token nonce ↔ InTime claims leeway o'.now := by
  simp only [Occasion.Accepts, Occasion.verdict_eq_ok_iff_inTime h, exists_eq_left]

/-- **A token that is accepted once is accepted exactly at the moments in its time**, with the same
    claims: a greater leeway refuses nothing that a lesser one accepts, and between two moments at
    which the token is accepted there is none at which it is not. -/
theorem accepted_exactly_inTime (o : Occasion p document)
    (h : o.verdict check token nonce = .ok claims) :
    (∀ (leeway : Int) (o' : Occasion { p with leeway } document) (claims' : Claims),
        o'.verdict check token nonce = .ok claims' ↔
          claims' = claims ∧ InTime claims leeway o'.now)
      ∧ (∀ (leeway leeway' : Int) (less : Occasion { p with leeway } document)
          (more : Occasion { p with leeway := leeway' } document), leeway ≤ leeway' →
          less.now = more.now → less.Accepts check token nonce → more.Accepts check token nonce)
      ∧ ∀ (leeway : Int) (first now last : Occasion { p with leeway } document),
          first.now ≤ now.now → now.now ≤ last.now → first.Accepts check token nonce →
          last.Accepts check token nonce → now.Accepts check token nonce := by
  refine ⟨fun leeway o' claims' => Occasion.verdict_eq_ok_iff_inTime h o', ?_, ?_⟩
  · intro leeway leeway' less more hle hnow haccepts
    rw [Occasion.accepts_iff_inTime h] at haccepts ⊢
    rw [← hnow]
    exact haccepts.mono hle
  · intro leeway first now last hfirst hlast haccepts haccepts'
    rw [Occasion.accepts_iff_inTime h] at haccepts haccepts' ⊢
    exact haccepts.between haccepts' hfirst hlast

/-- Claims that are over at 20 and hold from 3. -/
def timedClaims : Claims :=
  [(.text "iss", .text "i"), (.text "aud", .list [.text "c"]), (.text "exp", .int 20),
    (.text "nbf", .int 3)]

/-- The text of these claims. -/
def timedPayload : Bytes :=
  Text.asciiBytes "\x7b\"iss\":\"i\",\"aud\":[\"c\"],\"exp\":20,\"nbf\":3\x7d".toList

theorem inTime_timedClaims_iff {leeway now : Int} :
    InTime timedClaims leeway now ↔ 3 - leeway ≤ now ∧ now ≤ 20 + leeway := by
  have hnbf : Value.field? timedClaims "nbf" = some (.int 3) := by cbv
  have hexp : Value.field? timedClaims "exp" = some (.int 20) := by cbv
  constructor
  · intro h
    exact ⟨h.begun _ _ hnbf rfl, h.lasting _ _ hexp rfl⟩
  · rintro ⟨hbegun, hlasting⟩
    refine ⟨fun v t hv ht => ?_, fun v t hv ht => ?_⟩
    · obtain rfl := Option.some.inj (hnbf.symm.trans hv)
      obtain rfl := Except.ok.inj ht
      exact hbegun
    · obtain rfl := Option.some.inj (hexp.symm.trans hv)
      obtain rfl := Except.ok.inj ht
      exact hlasting

/-- The token with these claims is accepted from 3 to 20, and with a leeway for as much longer. -/
theorem accepted_exactly_inTime_timedPayload :
    (exampleOccasion 22).verdict Key.verify (.text (exampleToken timedPayload)) .null
        = .ok timedClaims
      ∧ ∀ (leeway : Int) (o : Occasion { examplePolicy with leeway } exampleKeys),
        o.verdict Key.verify (.text (exampleToken timedPayload)) .null = .ok timedClaims ↔
          3 - leeway ≤ o.now ∧ o.now ≤ 20 + leeway := by
  have hclaims : claimsOfPayload timedPayload = .ok timedClaims := by cbv
  have h : (exampleOccasion 22).verdict Key.verify (.text (exampleToken timedPayload)) .null
      = .ok timedClaims :=
    verdict_exampleToken none hclaims (by cbv) rfl
  refine ⟨h, fun leeway o => ?_⟩
  rw [(accepted_exactly_inTime (exampleOccasion 22) h).1 leeway o, inTime_timedClaims_iff]
  simp

/-! ## The time of issue -/

/-- There is an occasion for each moment in time. -/
theorem Occasion.forall_accepts_iff {o : Occasion p document}
    (h : o.verdict check token nonce = .ok claims) {P : Int → Prop} :
    (∀ o' : Occasion p document, o'.Accepts check token nonce → P o'.now) ↔
      ∀ now, InTime claims p.leeway now → P now := by
  have haccepts : ∀ o' : Occasion p document,
      o'.Accepts check token nonce ↔ InTime claims p.leeway o'.now :=
    fun o' => Occasion.accepts_iff_inTime h o'
  constructor
  · intro hall now hin
    obtain ⟨o', rfl⟩ := o.exists_at now
    exact hall o' ((haccepts o').2 hin)
  · intro hall o' haccepted
    exact hall o'.now ((haccepts o').1 haccepted)

/-- **A token is never accepted before it was issued exactly if it is not valid before then**, by
    what it says itself. -/
theorem issued_before_use_iff (o : Occasion p document)
    (h : o.verdict check token nonce = .ok claims) {v : Value}
    (hv : Value.field? claims "iat" = some v) :
    ∃ issued, v.toInteger = .ok issued
      ∧ ((∀ o' : Occasion p document, o'.Accepts check token nonce → issued ≤ o'.now + p.leeway) ↔
        ∃ w start, Value.field? claims "nbf" = some w ∧ w.toInteger = .ok start
          ∧ issued ≤ start) := by
  obtain ⟨-, hhold⟩ := o.verdict_eq_ok_iff.1 h
  obtain ⟨issued, hissued, -⟩ := hhold.issuedAt v hv
  have hin : InTime claims p.leeway o.now := (Occasion.accepts_iff_inTime h o).1 ⟨claims, h⟩
  have hstated : StatesTime claims .notBefore fun _ => True := by
    intro w hw
    obtain ⟨start, hstart, -⟩ := hhold.notBefore w hw
    exact ⟨start, hstart, trivial⟩
  refine ⟨issued, hissued, ?_⟩
  rw [Occasion.forall_accepts_iff h (P := fun now => issued ≤ now + p.leeway)]
  exact hin.never_before_iff hstated

end Window

/-- The text of claims of which the issue is stated, and a later time from which they hold. -/
def datedPayload : Bytes := Text.asciiBytes "\x7b\"iss\":\"i\",\"iat\":7,\"nbf\":9\x7d".toList

theorem issued_before_use_datedPayload :
    ∃ claims, (exampleOccasion 9).verdict Key.verify (.text (exampleToken datedPayload)) .null
        = .ok claims
      ∧ Value.field? claims "iat" = some (.int 7)
      ∧ ∀ o : Occasion examplePolicy exampleKeys,
        o.Accepts Key.verify (.text (exampleToken datedPayload)) .null → 7 ≤ o.now + 5 := by
  have h : (exampleOccasion 9).verdict Key.verify (.text (exampleToken datedPayload)) .null
      = .ok [(.text "iss", .text "i"), (.text "iat", .int 7), (.text "nbf", .int 9)] :=
    verdict_exampleToken none (by cbv) (by cbv) rfl
  have hiat : Value.field? [(.text "iss", .text "i"), (.text "iat", .int 7), (.text "nbf", .int 9)]
      "iat" = some (.int 7) := by cbv
  obtain ⟨issued, hissued, hiff⟩ := issued_before_use_iff (exampleOccasion 9) h hiat
  obtain rfl : 7 = issued := Except.ok.inj hissued
  exact ⟨_, h, hiat, hiff.2 ⟨.int 9, 9, by cbv, rfl, by decide⟩⟩

/-- The text of claims that were issued at 100. -/
def aheadPayload : Bytes := Text.asciiBytes "\x7b\"iss\":\"i\",\"iat\":100\x7d".toList

/-- A token may be accepted long before it was issued. -/
theorem accepts_before_issued :
    ∃ claims issued,
      (exampleOccasion 50).verdict Key.verify (.text (exampleToken aheadPayload)) .null = .ok claims
      ∧ Value.field? claims "iat" = some (.int issued) ∧ 50 + examplePolicy.leeway < issued := by
  have h : (exampleOccasion 50).verdict Key.verify (.text (exampleToken aheadPayload)) .null
      = .ok [(.text "iss", .text "i"), (.text "iat", .int 100)] :=
    verdict_exampleToken none (by cbv) (by cbv) rfl
  exact ⟨_, 100, h, by cbv, by decide⟩

end RelyingParty.Token
