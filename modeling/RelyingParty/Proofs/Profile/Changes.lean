import RelyingParty.Profile.Login
import RelyingParty.Profile.Operation
import RelyingParty.Proofs.Entries
import RelyingParty.Proofs.Profile.Rules

set_option autoImplicit false

/-! # Profiles that are changed

A profile starts out empty or with what a login gives, and is changed by one operation after the
other, with arguments of any type. Each operation has one part of the profile to change: the
identifier, a store of facts or a set of rights. What it puts there is in order if what was there
is, however far it comes: `updates_apply`. So every profile keeps to the rules, and what is refused
changes nothing: `rules_hold_after`. -/

namespace RelyingParty.Profile

/-! ## Facts in order -/

/-- A value as facts hold it: it is not null, and a list if it is a sequence. -/
structure IsKept (v : Value) : Prop where
  present : v ≠ .null
  lists : ∀ xs, v.sequence? = some xs → v = .list xs

/-- Facts under visible keys. -/
def FactsInOrder (facts : FactStore) : Prop := ∀ f ∈ facts, f.1.isBlank = false ∧ IsKept f.2

theorem isKept_list (xs : List Value) : IsKept (.list xs) where
  present := by simp
  lists := fun _ h => congrArg Value.list (Option.some.inj h)

theorem isKept_storedValue {merges : Bool} {existing : Option Value} {v : Value} (hv : v ≠ .null) :
    IsKept (storedValue merges existing v) := by
  unfold storedValue
  split
  · next hnone => exact ⟨hv, fun xs hxs => absurd (hnone.symm.trans hxs) (by simp)⟩
  · split
    · split
      · exact isKept_list _
      · exact isKept_list _
    · exact isKept_list _

variable {merges : Bool} {facts : FactStore}

theorem inOrder_addFact {key v : Value} {after : FactStore} (hfacts : FactsInOrder facts)
    (h : addFact merges facts key v = .ok after) : FactsInOrder after := by
  unfold addFact at h
  split at h
  · exact absurd h (by simp)
  · next hvisible =>
    split at h
    · rw [← Except.ok.inj h]
      exact hfacts
    · next hpresent =>
      split at h
      · exact absurd h (by simp)
      · rw [← Except.ok.inj h]
        have hv : v ≠ .null := fun hnull => hpresent (Value.isNull_iff.2 hnull)
        exact Entries.forall_mem_insert (p := fun key : Value => key.isBlank = false)
          (q := IsKept) hfacts (Bool.eq_false_iff.2 hvisible) (isKept_storedValue hv)

/-- Facts stay in order up to the first one that is not accepted. -/
theorem inOrder_addFacts {entries : List (Value × Value)} (hfacts : FactsInOrder facts) :
    FactsInOrder (addFacts merges facts entries).2 := by
  induction entries generalizing facts with
  | nil => exact hfacts
  | cons entry rest ih =>
    rw [addFacts]
    split
    · next after hstep => exact ih (inOrder_addFact hfacts hstep)
    · exact hfacts

theorem visible_of_factsOf {v : Value} {entries : List (Value × Value)}
    (h : factsOf v = .ok entries) : ∀ f ∈ entries, f.1.isBlank = false := by
  unfold factsOf checkKeys at h
  split at h
  · exact absurd h (by simp)
  · split at h
    · next entries' _ =>
      obtain ⟨_, hcheck, rfl⟩ := map_eq_ok_iff.1 h
      split at hcheck
      · exact absurd hcheck (by simp)
      · next hvisible =>
        intro f hf
        have hkey : f.1 ∈ Entries.keys entries' := List.mem_map_of_mem hf
        exact Bool.eq_false_iff.2 fun hblank => hvisible (List.any_eq_true.2 ⟨f.1, hkey, hblank⟩)
    · split at h
      · exact absurd h (by simp)
      · split at h
        · exact absurd h (by simp)
        · exact absurd h (by simp)

/-- Facts under visible keys are not refused once the first one has been added. -/
theorem addFacts_ne_refused {entries : List (Value × Value)}
    (hvisible : ∀ f ∈ entries, f.1.isBlank = false) (reason : ProfileError) :
    (addFacts merges facts entries).1 ≠ .error (.refused reason) := by
  induction entries generalizing facts with
  | nil => simp [addFacts]
  | cons entry rest ih =>
    obtain ⟨hkey, hrest⟩ := List.forall_mem_cons.1 hvisible
    rw [addFacts]
    split
    · exact ih hrest
    · next failure hstep =>
      rw [addFact, hkey] at hstep
      intro hrefused
      rw [Except.error.inj hrefused] at hstep
      revert hstep
      split
      · next hblank => exact absurd hblank Bool.false_ne_true
      · split
        · simp
        · split <;> simp

/-! ## Rights in order -/

variable {rights : List Value}

theorem RightsInOrder.sublist {fewer : List Value} (h : RightsInOrder rights)
    (hsub : List.Sublist fewer rights) : RightsInOrder fewer :=
  ⟨fun r hr => h.visible r (hsub.subset hr), h.distinct.sublist hsub⟩

theorem inOrder_insertRight {right : Value} {after : List Value} (hrights : RightsInOrder rights)
    (hvisible : right.isBlank = false) (h : insertRight rights right = .ok after) :
    RightsInOrder after := by
  refine ⟨?_, pairwise_insertRight hrights.distinct h⟩
  obtain ⟨-, rfl⟩ := insertRight_eq_ok_iff.1 h
  split
  · exact hrights.visible
  · intro r hr
    rcases List.mem_append.1 hr with hold | hnew
    · exact hrights.visible r hold
    · rw [List.mem_singleton.1 hnew]
      exact hvisible

/-- Rights stay in order up to the first one that is not accepted. -/
theorem inOrder_insertRights {new : List Value} (hrights : RightsInOrder rights)
    (hvisible : ∀ r ∈ new, r.isBlank = false) : RightsInOrder (insertRights rights new).2 := by
  induction new generalizing rights with
  | nil => exact hrights
  | cons right rest ih =>
    obtain ⟨hright, hrest⟩ := List.forall_mem_cons.1 hvisible
    rw [insertRights]
    split
    · next after hstep => exact ih (inOrder_insertRight hrights hright hstep) hrest
    · exact hrights

/-! ## The rules, part by part -/

/-- A part of a profile that operations change. -/
inductive Part where
  | identifier
  | facts (k : FactKind)
  | rights (k : RightKind)

/-- A profile keeps to the rules if each of its parts does. -/
theorem keepsRules_iff {p : Profile} :
    p.KeepsRules ↔ (∀ s, p.id = some s → Text.isBlankText s = false)
      ∧ (∀ k, FactsInOrder (p.facts k)) ∧ ∀ k, RightsInOrder (p.rights k) := by
  constructor
  · intro h
    exact ⟨h.id, fun k f hf => ⟨h.keys k f hf, h.present k f hf, h.lists k f hf⟩,
      fun k => ⟨h.visible k, h.distinct k⟩⟩
  · rintro ⟨hid, hfacts, hrights⟩
    exact {
      id := hid
      lists := fun k f hf => (hfacts k f hf).2.lists
      visible := fun k => (hrights k).visible
      distinct := fun k => (hrights k).distinct
      keys := fun k f hf => (hfacts k f hf).1
      present := fun k f hf => (hfacts k f hf).2.present }

/-- Nothing of a profile has changed but one part. -/
structure SameBut (part : Part) (p p' : Profile) : Prop where
  kind : p'.kind = p.kind
  merges : p'.merges = p.merges
  id : part ≠ .identifier → p'.id = p.id
  facts : ∀ k, part ≠ .facts k → p'.facts k = p.facts k
  rights : ∀ k, part ≠ .rights k → p'.rights k = p.rights k
  remembered : p'.remembered = p.remembered
  linkedId : p'.linkedId = p.linkedId
  clientName : p'.clientName = p.clientName
  notes : p'.notes = p.notes

/-- What an operation on one part comes to: nothing has changed, or it was not refused, and the part
    has got something that is in order if what was there is. -/
inductive Updates (p : Profile) : Part → ProfileUpdate → Prop where
  | nothing (part : Part) (result : Except (Failure ProfileError) Unit) : Updates p part (result, p)
  | identifier {id : String} (h : Text.isBlankText id = false) :
      Updates p .identifier (.ok (), { p with id := some id })
  | facts (k : FactKind) {result : Except (Failure ProfileError) Unit} {after : FactStore}
      (hresult : ∀ reason, result ≠ .error (.refused reason))
      (h : FactsInOrder (p.facts k) → FactsInOrder after) :
      Updates p (.facts k) (result, p.withFacts k after)
  | rights (k : RightKind) {result : Except (Failure ProfileError) Unit} {after : List Value}
      (hresult : ∀ reason, result ≠ .error (.refused reason))
      (h : RightsInOrder (p.rights k) → RightsInOrder after) :
      Updates p (.rights k) (result, p.withRights k after)

theorem facts_withFacts (p : Profile) (k : FactKind) (after : FactStore) :
    (p.withFacts k after).facts k = after := by
  cases k <;> rfl

theorem facts_withFacts_of_ne (p : Profile) {k k' : FactKind} (h : k ≠ k') (after : FactStore) :
    (p.withFacts k after).facts k' = p.facts k' := by
  cases k <;> cases k' <;> first | rfl | exact absurd rfl h

theorem rights_withRights (p : Profile) (k : RightKind) (after : List Value) :
    (p.withRights k after).rights k = after := by
  cases k <;> rfl

theorem rights_withRights_of_ne (p : Profile) {k k' : RightKind} (h : k ≠ k')
    (after : List Value) : (p.withRights k after).rights k' = p.rights k' := by
  cases k <;> cases k' <;> first | rfl | exact absurd rfl h

theorem sameBut_withFacts (p : Profile) (k : FactKind) (after : FactStore) :
    SameBut (.facts k) p (p.withFacts k after) := by
  have hfacts : ∀ k', Part.facts k ≠ .facts k' → (p.withFacts k after).facts k' = p.facts k' :=
    fun k' hne => p.facts_withFacts_of_ne (fun heq => hne (congrArg Part.facts heq)) after
  cases k with
  | _ =>
    exact ⟨rfl, rfl, fun _ => rfl, hfacts, fun k' _ => by cases k' <;> rfl, rfl, rfl, rfl, rfl⟩

theorem sameBut_withRights (p : Profile) (k : RightKind) (after : List Value) :
    SameBut (.rights k) p (p.withRights k after) := by
  have hrights : ∀ k', Part.rights k ≠ .rights k' →
      (p.withRights k after).rights k' = p.rights k' :=
    fun k' hne => p.rights_withRights_of_ne (fun heq => hne (congrArg Part.rights heq)) after
  cases k with
  | _ =>
    exact ⟨rfl, rfl, fun _ => rfl, fun k' _ => by cases k' <;> rfl, hrights, rfl, rfl, rfl, rfl⟩

variable {p : Profile} {u : ProfileUpdate}

theorem Updates.sameBut {part : Part} (h : Updates p part u) : SameBut part p u.2 := by
  cases h with
  | nothing =>
    exact ⟨rfl, rfl, fun _ => rfl, fun _ _ => rfl, fun _ _ => rfl, rfl, rfl, rfl, rfl⟩
  | identifier =>
    exact ⟨rfl, rfl, fun hne => absurd rfl hne, fun k _ => by cases k <;> rfl,
      fun k _ => by cases k <;> rfl, rfl, rfl, rfl, rfl⟩
  | facts k => exact sameBut_withFacts p k _
  | rights k => exact sameBut_withRights p k _

theorem Updates.eq_of_refused {part : Part} (h : Updates p part u) {reason : ProfileError}
    (hrefused : u.1 = .error (.refused reason)) : u.2 = p := by
  cases h with
  | nothing => rfl
  | identifier => exact absurd hrefused (by simp)
  | facts _ hresult => exact absurd hrefused (hresult reason)
  | rights _ hresult => exact absurd hrefused (hresult reason)

/-- A part that changes stays in order, and so do the others. -/
theorem Updates.keepsRules {part : Part} (h : Updates p part u) (hp : p.KeepsRules) :
    u.2.KeepsRules := by
  have hsame := h.sameBut
  obtain ⟨hid, hfacts, hrights⟩ := keepsRules_iff.1 hp
  rw [keepsRules_iff]
  cases h with
  | nothing => exact ⟨hid, hfacts, hrights⟩
  | identifier hvisible =>
    refine ⟨fun s hs => Option.some.inj hs ▸ hvisible, fun k => ?_, fun k => ?_⟩
    · rw [hsame.facts k (by simp)]
      exact hfacts k
    · rw [hsame.rights k (by simp)]
      exact hrights k
  | facts k _ hafter =>
    refine ⟨fun s hs => hid s ((hsame.id (by simp)).symm.trans hs), fun k' => ?_, fun k' => ?_⟩
    · by_cases hk : k = k'
      · rw [← hk, facts_withFacts]
        exact hafter (hfacts k)
      · rw [facts_withFacts_of_ne p hk]
        exact hfacts k'
    · rw [hsame.rights k' (by simp)]
      exact hrights k'
  | rights k _ hafter =>
    refine ⟨fun s hs => hid s ((hsame.id (by simp)).symm.trans hs), fun k' => ?_, fun k' => ?_⟩
    · rw [hsame.facts k' (by simp)]
      exact hfacts k'
    · by_cases hk : k = k'
      · rw [← hk, rights_withRights]
        exact hafter (hrights k)
      · rw [rights_withRights_of_ne p hk]
        exact hrights k'

/-! ## Operations -/

/-- An operation that changes a profile, with its arguments. -/
inductive Change where
  | setId (id : Value)
  | add (k : FactKind) (key value : Value)
  | addAll (k : FactKind) (facts : Value)
  | remove (k : FactKind) (key : Value)
  | grant (k : RightKind) (right : Value)
  | grantAll (k : RightKind) (rights : Value)
  | revoke (k : RightKind) (right : Value)

/-- The part of a profile that an operation is about. -/
def Change.part : Change → Part
  | .setId _ => .identifier
  | .add k .. | .addAll k _ | .remove k _ => .facts k
  | .grant k _ | .grantAll k _ | .revoke k _ => .rights k

/-- Carry out an operation. -/
def Change.apply (p : Profile) : Change → ProfileUpdate
  | .setId id => p.setId id
  | .add k key value => p.add k key value
  | .addAll k facts => p.addAll k facts
  | .remove k key => p.remove k key
  | .grant k right => p.grant k right
  | .grantAll k rights => p.grantAll k rights
  | .revoke k right => p.revoke k right

theorem updates_setId (p : Profile) (id : Value) : Updates p .identifier (p.setId id) := by
  unfold setId
  split
  · exact .nothing ..
  · next hvisible => exact .identifier (isBlankText_display (Bool.eq_false_iff.2 hvisible))

theorem updates_add (p : Profile) (k : FactKind) (key value : Value) :
    Updates p (.facts k) (p.add k key value) := by
  unfold add
  split
  · next after hstep => exact .facts k (by simp) fun hfacts => inOrder_addFact hfacts hstep
  · exact .nothing ..

theorem updates_addAll (p : Profile) (k : FactKind) (facts : Value) :
    Updates p (.facts k) (p.addAll k facts) := by
  unfold addAll
  split
  · exact .nothing ..
  · next entries hentries =>
    exact .facts k (addFacts_ne_refused (visible_of_factsOf hentries)) inOrder_addFacts

theorem updates_remove (p : Profile) (k : FactKind) (key : Value) :
    Updates p (.facts k) (p.remove k key) := by
  unfold remove
  split
  · exact .nothing ..
  · split
    · exact .nothing ..
    · exact .facts k (by simp) fun hfacts f hf =>
        hfacts f ((Entries.erase_sublist _ key).subset hf)

theorem updates_grant (p : Profile) (k : RightKind) (right : Value) :
    Updates p (.rights k) (p.grant k right) := by
  unfold grant
  split
  · exact .nothing ..
  · next hvisible =>
    split
    · next after hstep =>
      exact .rights k (by simp) fun hrights =>
        inOrder_insertRight hrights (Bool.eq_false_iff.2 hvisible) hstep
    · exact .nothing ..

theorem updates_grantAll (p : Profile) (k : RightKind) (rights : Value) :
    Updates p (.rights k) (p.grantAll k rights) := by
  unfold grantAll
  split
  · exact .nothing ..
  · next values hvalues =>
    have hafter : RightsInOrder (p.rights k) →
        RightsInOrder (insertRights (p.rights k) values).2 :=
      fun hrights => inOrder_insertRights hrights (visible_of_rightsOf hvalues)
    split
    · next after hinsert =>
      rw [hinsert] at hafter
      exact .rights k (by simp) hafter
    · next after hinsert =>
      rw [hinsert] at hafter
      exact .rights k (by simp) hafter

theorem updates_revoke (p : Profile) (k : RightKind) (right : Value) :
    Updates p (.rights k) (p.revoke k right) := by
  unfold revoke
  split
  · exact .nothing ..
  · split
    · exact .nothing ..
    · exact .rights k (by simp) fun hrights => hrights.sublist List.filter_sublist

/-- **An operation changes the part it is about, and keeps that in order.** -/
theorem updates_apply (p : Profile) (c : Change) : Updates p c.part (c.apply p) := by
  cases c with
  | setId id => exact updates_setId p id
  | add k key value => exact updates_add p k key value
  | addAll k facts => exact updates_addAll p k facts
  | remove k key => exact updates_remove p k key
  | grant k right => exact updates_grant p k right
  | grantAll k rights => exact updates_grantAll p k rights
  | revoke k right => exact updates_revoke p k right

/-- The operations that an application asks for by name are these, or change nothing. -/
theorem operate_cases (p : Profile) (name : String) (args : List Value) :
    (∃ c : Change, p.operate name args = yieldingNull (c.apply p))
      ∨ (p.operate name args).2 = p := by
  unfold operate
  split
  · next k v => exact Or.inl ⟨.add .attribute k v, rfl⟩
  · next k v => exact Or.inl ⟨.add .authentication k v, rfl⟩
  · next v => exact Or.inl ⟨.addAll .attribute v, rfl⟩
  · next v => exact Or.inl ⟨.addAll .authentication v, rfl⟩
  · next k => exact Or.inl ⟨.remove .attribute k, rfl⟩
  · next k => exact Or.inl ⟨.remove .authentication k, rfl⟩
  · exact Or.inr rfl
  · exact Or.inr rfl
  · exact Or.inr rfl
  · exact Or.inr rfl
  · exact Or.inr rfl
  · exact Or.inr rfl
  · next v => exact Or.inl ⟨.grant .role v, rfl⟩
  · next v => exact Or.inl ⟨.grantAll .role v, rfl⟩
  · next v => exact Or.inl ⟨.revoke .role v, rfl⟩
  · next v => exact Or.inl ⟨.grant .permission v, rfl⟩
  · next v => exact Or.inl ⟨.grantAll .permission v, rfl⟩
  · next v => exact Or.inl ⟨.revoke .permission v, rfl⟩
  · exact Or.inr rfl

/-- The rules hold after an operation by name, whatever the name and the arguments are. -/
theorem keepsRules_operate (hp : p.KeepsRules) (name : String) (args : List Value) :
    (p.operate name args).2.KeepsRules := by
  rcases operate_cases p name args with ⟨c, hc⟩ | hsame
  · rw [hc]
    exact (updates_apply p c).keepsRules hp
  · rw [hsame]
    exact hp

/-! ## Any operations -/

/-- How a profile starts out: empty, or with what a login gives. -/
inductive StartsOut (merges : Bool) : Profile → Prop where
  | empty (kind : ProfileClass) : StartsOut merges { kind, merges }
  | login {claims : Value} {credentials : Option Credentials} {p : Profile}
      (h : ofClaims claims credentials merges = .ok p) : StartsOut merges p

/-- The profile after some operations, whatever becomes of each of them. -/
def after (p : Profile) (changes : List Change) : Profile :=
  changes.foldl (fun p c => (c.apply p).2) p

theorem keepsRules_empty (kind : ProfileClass) (merges : Bool) :
    KeepsRules { kind, merges } := by
  rw [keepsRules_iff]
  refine ⟨by simp, fun k f hf => ?_, fun k => ?_⟩
  · cases k <;> exact absurd hf (by simp [facts])
  · cases k <;> exact ⟨by simp [Profile.rights], .nil⟩

/-- A login gives a profile by operations on an empty one. -/
theorem keepsRules_of_ofClaims {claims : Value} {credentials : Option Credentials} {p : Profile}
    (h : ofClaims claims credentials merges = .ok p) : p.KeepsRules ∧ p.merges = merges := by
  unfold ofClaims at h
  split at h
  · next members =>
    split at h
    · exact absurd h (by simp)
    · next p₁ hset =>
      dsimp only at h
      split at h
      · exact absurd h (by simp)
      · next p₂ hadd =>
        split at h
        · exact absurd h (by simp)
        · next attributes htokens =>
          have hfirst := hset ▸ updates_setId _ (Value.fieldD members subjectClaim)
          have hsecond := hadd ▸ updates_addAll p₁ .attribute _
          have hp₁ : p₁.KeepsRules := hfirst.keepsRules (keepsRules_empty .oidc merges)
          have hp₂ : p₂.KeepsRules := hsecond.keepsRules hp₁
          have hlast : Updates p₂ (.facts .attribute) (.ok (), { p₂ with attributes }) :=
            .facts .attribute (by simp) fun hfacts => by
              have hafter : FactsInOrder (addFacts merges p₂.attributes
                  ((credentials.map tokenAttributes).getD [])).2 := inOrder_addFacts hfacts
              rw [htokens] at hafter
              exact hafter
          rw [← Except.ok.inj h]
          exact ⟨hlast.keepsRules hp₂,
            hlast.sameBut.merges.trans (hsecond.sameBut.merges.trans hfirst.sameBut.merges)⟩
  · exact absurd h (by simp)

theorem StartsOut.keepsRules (h : StartsOut merges p) : p.KeepsRules ∧ p.merges = merges := by
  cases h with
  | empty kind => exact ⟨keepsRules_empty kind merges, rfl⟩
  | login h => exact keepsRules_of_ofClaims h

theorem keepsRules_after (hp : p.KeepsRules) (changes : List Change) :
    (p.after changes).KeepsRules ∧ (p.after changes).merges = p.merges := by
  induction changes generalizing p with
  | nil => exact ⟨hp, rfl⟩
  | cons c rest ih =>
    have hstep := updates_apply p c
    obtain ⟨hrules, hmerges⟩ := ih (hstep.keepsRules hp)
    exact ⟨hrules, hmerges.trans hstep.sameBut.merges⟩

/-- **The rules hold after any operations.** Whatever a profile started out with and whatever was
    done to it, with arguments of any type and however it ended: nothing in it is blank or null,
    sequences are lists, no right is there twice, and it merges as it did at first. The next
    operation changes one part at most, and nothing if it is refused. -/
theorem rules_hold_after {start : Profile} (hstart : StartsOut merges start)
    (changes : List Change) :
    (start.after changes).KeepsRules
      ∧ (start.after changes).merges = merges
      ∧ ∀ c : Change, SameBut c.part (start.after changes) (c.apply (start.after changes)).2
        ∧ ∀ reason, (c.apply (start.after changes)).1 = .error (.refused reason) →
            (c.apply (start.after changes)).2 = start.after changes := by
  obtain ⟨hrules, hmerges⟩ := hstart.keepsRules
  obtain ⟨hafter, hsame⟩ := keepsRules_after hrules changes
  refine ⟨hafter, hsame.trans hmerges, fun c => ?_⟩
  have hstep := updates_apply (start.after changes) c
  exact ⟨hstep.sameBut, fun reason => hstep.eq_of_refused⟩

/-- An identifier that is a number, a sequence that is no list, and a right that comes twice. -/
def exampleChanges : List Change :=
  [.setId (.int 7), .add .attribute (.text "groups") (.tuple [.text "staff"]),
    .grantAll .role (.list [.int 1, .bool true])]

/-- Facts of which the second one has a blank key. -/
def blankFacts : Change :=
  .addAll .attribute (.dict [(.text "groups", .list [.text "guests"]), (.text " ", .int 1)])

/-- What these make of an empty profile. -/
def changedProfile : Profile where
  kind := .user
  id := some "7"
  attributes := [(.text "groups", .list [.text "staff"])]
  roles := [.int 1]

theorem after_exampleChanges : after { kind := .user } exampleChanges = changedProfile := by
  cbv

theorem rules_hold_exampleChanges :
    StartsOut true { kind := .user } ∧ changedProfile.KeepsRules
      ∧ (blankFacts.apply changedProfile).1 = .error (.refused .blankKey)
      ∧ (blankFacts.apply changedProfile).2 = changedProfile := by
  have hstart : StartsOut true { kind := .user } := .empty .user
  have hrefused : (blankFacts.apply changedProfile).1 = .error (.refused .blankKey) := by cbv
  obtain ⟨hrules, -, hnext⟩ := rules_hold_after hstart exampleChanges
  rw [after_exampleChanges] at hrules hnext
  exact ⟨hstart, hrules, hrefused, (hnext blankFacts).2 _ hrefused⟩

end RelyingParty.Profile
