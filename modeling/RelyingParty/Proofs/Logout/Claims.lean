import RelyingParty.Logout.Claims
import RelyingParty.Proofs.Steps
import RelyingParty.Proofs.Value.Equality

set_option autoImplicit false

/-! # What the claims of a logout token take

`NamesEnd` says what claims that were verified have to be like for a session to be ended, and
`sessionOfClaims_dict_eq_ok_iff` that this is what is checked. Claims nobody verified only must not
name a session by anything but text. -/

namespace RelyingParty.Logout

/-- A text that is not blank. Broken text has a character that is none, which is not blank. -/
def IsSessionName (v : Value) : Prop :=
  (∃ s, v = .text s ∧ Text.isBlankText s = false) ∨ ∃ points, v = .brokenText points

/-- Claims name the end of a session: they carry no nonce, name the event, and name the session. -/
structure NamesEnd (claims : List (Value × Value)) (sid : Value) : Prop where
  nonce : Value.field? claims "nonce" = none
  events : ∃ members, Value.field? claims "events" = some (.dict members)
    ∧ (Value.field? members event).isSome = true
  session : Value.field? claims "sid" = some sid
  named : IsSessionName sid

/-! ## The checks -/

theorem namesEvent_eq_true_iff {v : Value} :
    namesEvent v = true ↔ ∃ members, v = .dict members
      ∧ (Value.field? members event).isSome = true := by
  cases v with
  | dict members => simp [namesEvent]
  | _ => simp [namesEvent]

theorem sessionOfMembers_eq_ok_iff {claims : List (Value × Value)} {sid : Value} :
    sessionOfMembers claims = .ok sid ↔
      (∃ members, Value.field? claims "events" = some (.dict members)
        ∧ (Value.field? members event).isSome = true)
      ∧ Value.field? claims "sid" = some sid ∧ IsSessionName sid := by
  have hevents : namesEvent (Value.fieldD claims "events") = true ↔
      ∃ members, Value.field? claims "events" = some (.dict members)
        ∧ (Value.field? members event).isSome = true := by
    rw [namesEvent_eq_true_iff]
    constructor
    · rintro ⟨members, hdict, hmember⟩
      exact ⟨members, (Value.fieldD_eq_iff (by simp)).1 hdict, hmember⟩
    · rintro ⟨members, hdict, hmember⟩
      exact ⟨members, (Value.fieldD_eq_iff (by simp)).2 hdict, hmember⟩
  -- members that are missing are read as null, which neither names an event nor a session
  unfold sessionOfMembers
  cases hnames : namesEvent (Value.fieldD claims "events") with
  | false =>
    constructor
    · intro h
      exact absurd h (by simp)
    · rintro ⟨hmember, -⟩
      rw [hevents.2 hmember] at hnames
      exact absurd hnames (by simp)
  | true =>
    simp only [Bool.not_true, Bool.false_eq_true, if_false]
    constructor
    · intro h
      refine ⟨hevents.1 hnames, ?_⟩
      split at h
      · next s hs =>
        split at h
        · exact absurd h (by simp)
        · next hblank =>
          obtain rfl := Except.ok.inj h
          exact ⟨(Value.fieldD_eq_iff (by simp)).1 hs, Or.inl ⟨s, rfl, by simpa using hblank⟩⟩
      · next points hpoints =>
        obtain rfl := Except.ok.inj h
        exact ⟨(Value.fieldD_eq_iff (by simp)).1 hpoints, Or.inr ⟨points, rfl⟩⟩
      · exact absurd h (by simp)
    · rintro ⟨-, hsid, ⟨s, rfl, hblank⟩ | ⟨points, rfl⟩⟩
      · rw [(Value.fieldD_eq_iff (by simp)).2 hsid]
        simp only [hblank, Bool.false_eq_true, if_false]
      · rw [(Value.fieldD_eq_iff (by simp)).2 hsid]

theorem sessionOfClaims_dict (claims : List (Value × Value)) :
    sessionOfClaims (.dict claims) =
      if (Value.field? claims "nonce").isSome then .error (.refused .nonce)
      else (sessionOfMembers claims).mapError .refused := by
  have hmember : hasMember "nonce" (.dict claims) = .ok (Value.field? claims "nonce").isSome := rfl
  rw [sessionOfClaims, hmember]
  cases (Value.field? claims "nonce").isSome with
  | true => rfl
  | false => rfl

/-- **Verified claims end a session exactly if they name its end.** -/
theorem sessionOfClaims_dict_eq_ok_iff {claims : List (Value × Value)} {sid : Value} :
    sessionOfClaims (.dict claims) = .ok sid ↔ NamesEnd claims sid := by
  rw [sessionOfClaims_dict]
  cases hnonce : Value.field? claims "nonce" with
  | some v =>
    constructor
    · intro h
      exact absurd h (by simp)
    · intro h
      rw [h.nonce] at hnonce
      exact absurd hnonce (by simp)
  | none =>
    rw [Option.isSome_none, if_neg Bool.false_ne_true, mapError_eq_ok_iff,
      sessionOfMembers_eq_ok_iff]
    constructor
    · rintro ⟨hevents, hsid, hname⟩
      exact ⟨hnonce, hevents, hsid, hname⟩
    · rintro ⟨-, hevents, hsid, hname⟩
      exact ⟨hevents, hsid, hname⟩

/-- Claims in a mapping are judged, whatever is in them. -/
theorem sessionOfClaims_dict_ne_fault {claims : List (Value × Value)} {cause : Fault} :
    sessionOfClaims (.dict claims) ≠ .error (.fault cause) := by
  rw [sessionOfClaims_dict]
  split
  · simp
  · exact mapError_refused_ne_fault

theorem unverifiedSession_eq_ok_iff {claims : List (Value × Value)} {sid : Value} :
    unverifiedSession claims = .ok sid ↔
      sid = Value.fieldD claims "sid" ∧ (sid = .null ∨ sid.isText = true) := by
  dsimp only [unverifiedSession]
  split
  · next h =>
    rw [Bool.or_eq_true, Value.isNull_iff] at h
    rw [Except.ok.injEq]
    constructor
    · rintro rfl
      exact ⟨rfl, h⟩
    · rintro ⟨rfl, -⟩
      rfl
  · next h =>
    rw [Bool.or_eq_true, Value.isNull_iff] at h
    constructor
    · intro hok
      exact absurd hok (by simp)
    · rintro ⟨rfl, hsid⟩
      exact absurd hsid h

end RelyingParty.Logout
