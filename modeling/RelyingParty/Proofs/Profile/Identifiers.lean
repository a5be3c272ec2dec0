import RelyingParty.Proofs.Profile.Changes
import RelyingParty.Proofs.Profile.RoundTrip

set_option autoImplicit false

/-! # Profiles told apart by their identifiers

A typed identifier is taken apart again at its first separator, which no class has in its name. So
profiles share a typed identifier only if they are of one class and their identifiers are written
alike: `typedId_eq_iff`. An identifier that is not set is written as a text that another profile may
have been given, and only there do typed identifiers fail to tell profiles apart:
`typedId_tells_apart_iff`. -/

namespace RelyingParty

/-! ## What is written alike -/

namespace ProfileClass

theorem name_injective {c c' : ProfileClass} (h : c.name = c'.name) : c = c' := by
  cases c <;> cases c' <;> first | rfl | exact absurd h (by decide)

theorem storedName_inj {c c' : ProfileClass} : c.storedName = c'.storedName ↔ c = c' := by
  constructor
  · intro h
    exact name_injective ((String.append_right_inj _).1 h)
  · intro h
    rw [h]

theorem storedName_ne_empty (c : ProfileClass) : c.storedName ≠ "" := by
  cases c <;> decide

end ProfileClass

namespace Profile

variable {p q : Profile}

/-- How an identifier that is not set is written. -/
def unsetText : String := "None"

theorem typedId_eq_iff :
    p.typedId = q.typedId ↔
      p.kind = q.kind ∧ p.id.getD unsetText = q.id.getD unsetText := by
  constructor
  · intro h
    have hdivided := p.divideText_typedId
    rw [h, q.divideText_typedId] at hdivided
    obtain ⟨hkind, hid⟩ := Prod.mk.inj hdivided
    exact ⟨ProfileClass.storedName_inj.1 hkind.symm, hid.symm⟩
  · rintro ⟨hkind, hid⟩
    unfold typedId
    rw [hkind]
    exact congrArg _ hid

/-- One of two identifiers is not set, and the other one reads like that. -/
def LooksUnset (id id' : Option String) : Prop :=
  id = none ∧ id' = some unsetText ∨ id = some unsetText ∧ id' = none

/-- Identifiers that are written alike are the same, unless one of them is not set. -/
theorem written_alike_iff {id id' : Option String} :
    id.getD unsetText = id'.getD unsetText ↔ id = id' ∨ LooksUnset id id' := by
  cases id with
  | none =>
    cases id' with
    | none => simp [LooksUnset]
    | some s' => simp [LooksUnset, eq_comm]
  | some s =>
    cases id' with
    | none => simp [LooksUnset]
    | some s' => simp [LooksUnset]

theorem LooksUnset.ne {id id' : Option String} (h : LooksUnset id id') : id ≠ id' := by
  rcases h with ⟨rfl, rfl⟩ | ⟨rfl, rfl⟩
  · simp
  · simp

/-! ## Profiles that come about -/

/-- Profiles as they come about: empty, from a login or read from the members of an object, and from
    these by operations and by setting properties, with values of any type and however that ends. -/
inductive Reached : Profile → Prop where
  | empty (kind : ProfileClass) (merges : Bool) : Reached { kind, merges }
  | login {claims : Value} {credentials : Option Credentials} {merges : Bool} {p : Profile}
      (h : ofClaims claims credentials merges = .ok p) : Reached p
  | read {members : List (Value × Value)} {p : Profile} (h : ofMembers members = .ok p) : Reached p
  | operated {p : Profile} (h : Reached p) (name : String) (args : List Value) :
      Reached (p.operate name args).2
  | assigned {p : Profile} (h : Reached p) (name : String) (value : Value) :
      Reached (p.setProperty name value).2

/-- The identifier of a profile is not blank if it is set. -/
def HasVisibleId (p : Profile) : Prop := ∀ id, p.id = some id → Text.isBlankText id = false

theorem Updates.hasVisibleId {part : Part} {u : ProfileUpdate} (h : Updates p part u)
    (hp : p.HasVisibleId) : u.2.HasVisibleId := by
  have hsame := h.sameBut
  cases h with
  | nothing => exact hp
  | identifier hvisible =>
    intro id hid
    exact Option.some.inj hid ▸ hvisible
  | facts k =>
    intro id hid
    exact hp id ((hsame.id (by simp)).symm.trans hid)
  | rights k =>
    intro id hid
    exact hp id ((hsame.id (by simp)).symm.trans hid)

theorem hasVisibleId_operate (hp : p.HasVisibleId) (name : String) (args : List Value) :
    (p.operate name args).2.HasVisibleId := by
  rcases operate_cases p name args with ⟨c, hc⟩ | hsame
  · rw [hc]
    exact (updates_apply p c).hasVisibleId hp
  · rw [hsame]
    exact hp

/-- Only setting the identifier changes it. -/
theorem hasVisibleId_setProperty (hp : p.HasVisibleId) (name : String) (value : Value) :
    (p.setProperty name value).2.HasVisibleId := by
  unfold setProperty
  split
  · exact (updates_setId p value).hasVisibleId hp
  · exact hp
  · exact hp
  · exact hp
  · split
    · exact hp
    · exact hp

theorem hasVisibleId_of_ofMembers {members : List (Value × Value)} (h : ofMembers members = .ok p) :
    p.HasVisibleId := by
  rw [ofMembers_eq] at h
  split at h
  · exact visible_of_readId (isReadFrom_of_readParts h).id
  · exact absurd h (by simp)

theorem Reached.hasVisibleId (h : Reached p) : p.HasVisibleId := by
  induction h with
  | empty kind merges => exact (keepsRules_empty kind merges).id
  | login h => exact (keepsRules_of_ofClaims h).1.id
  | read h => exact hasVisibleId_of_ofMembers h
  | operated _ name args ih => exact hasVisibleId_operate ih name args
  | assigned _ name value ih => exact hasVisibleId_setProperty ih name value

/-! ## Taking a typed identifier apart -/

/-- A typed identifier gives the class and the identifier as it is written. -/
theorem splitTypedId_typedId (hp : p.HasVisibleId) :
    splitTypedId (.text p.typedId) = .ok (p.kind.storedName, p.id.getD unsetText) := by
  have hid : p.id.getD unsetText ≠ "" := by
    cases h : p.id with
    | none => decide
    | some id =>
      rintro rfl
      exact absurd (hp "" h) (by decide)
  have htyped : p.typedId ≠ "" := by
    intro hempty
    have hdivided := p.divideText_typedId
    rw [hempty] at hdivided
    exact p.kind.storedName_ne_empty (Prod.mk.inj hdivided).1.symm
  have hpair : divideText typedIdSeparator p.typedId = (p.kind.storedName, p.id.getD unsetText) :=
    p.divideText_typedId
  simp [splitTypedId, Value.truthy, htyped, hpair, p.kind.storedName_ne_empty, hid]

/-- **Typed identifiers tell profiles apart**, by class and identifier, exactly unless they are of
    one class and one of them has no identifier, while the identifier of the other one reads like
    that. An identifier that is set is given back with the class, whatever separators are in it. -/
theorem typedId_tells_apart_iff (hp : Reached p) (hq : Reached q) :
    ((p.typedId = q.typedId ↔ p.kind = q.kind ∧ p.id = q.id) ↔
        ¬ (p.kind = q.kind ∧ LooksUnset p.id q.id))
      ∧ (∀ id, p.id = some id → splitTypedId (.text p.typedId) = .ok (p.kind.storedName, id))
      ∧ ∀ id, q.id = some id → splitTypedId (.text q.typedId) = .ok (q.kind.storedName, id) := by
  have hsplit : ∀ r : Profile, Reached r → ∀ id, r.id = some id →
      splitTypedId (.text r.typedId) = .ok (r.kind.storedName, id) := by
    intro r hr id hid
    rw [splitTypedId_typedId hr.hasVisibleId, hid]
    rfl
  refine ⟨?_, hsplit p hp, hsplit q hq⟩
  rw [typedId_eq_iff, written_alike_iff]
  constructor
  · rintro h ⟨hkind, hlooks⟩
    exact hlooks.ne (h.1 ⟨hkind, Or.inr hlooks⟩).2
  · intro h
    refine and_congr_right fun hkind => or_iff_left fun hlooks => h ⟨hkind, hlooks⟩

/-- A user with a separator in the identifier. -/
def numberedUser : Profile := { kind := .user, id := some "jdoe#2" }

/-- A user whose identifier reads like none. -/
def unnamedUser : Profile := { kind := .user, id := some "None" }

theorem reached_numberedUser : Reached numberedUser :=
  (Reached.empty .user true).assigned "id" (.text "jdoe#2")

theorem reached_unnamedUser : Reached unnamedUser :=
  (Reached.empty .user true).assigned "id" (.text "None")

theorem tells_apart_numberedUser :
    numberedUser.typedId ≠ unnamedUser.typedId
      ∧ splitTypedId (.text numberedUser.typedId)
        = .ok ("oidc_rp.profile.models.UserProfile", "jdoe#2") := by
  obtain ⟨hsame, hsplit, -⟩ := typedId_tells_apart_iff reached_numberedUser reached_unnamedUser
  refine ⟨fun h => ?_, hsplit "jdoe#2" rfl⟩
  have hlooks : ¬ LooksUnset numberedUser.id unnamedUser.id := by
    simp [LooksUnset, numberedUser, unnamedUser, unsetText]
  exact absurd ((hsame.2 fun hboth => hlooks hboth.2).1 h).2 (by decide)

/-- A user without identifier has the typed identifier of another one, which is given back as if it
    were set. -/
theorem typedId_of_unset :
    Reached { kind := .user } ∧ Reached unnamedUser
      ∧ typedId { kind := .user } = unnamedUser.typedId
      ∧ splitTypedId (.text (typedId { kind := .user }))
        = .ok ("oidc_rp.profile.models.UserProfile", "None") :=
  ⟨.empty .user true, reached_unnamedUser, rfl, rfl⟩

end Profile

end RelyingParty
