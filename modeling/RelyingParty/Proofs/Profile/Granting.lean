import RelyingParty.Proofs.Profile.Changes

set_option autoImplicit false

/-! # Rights added in bulk

A collection is looked through for blank rights before the first one is added, so that what is
refused changes nothing. A right that can change, such as a list, is found only when its turn comes,
and the rights before it stay: `insertRights_of_breaksOff`. A failure therefore leaves the profile
as it was exactly if it has all those already: `grantAll_changes_nothing_iff`. -/

namespace RelyingParty.Profile

variable {rights values before : List Value}

/-- Rights of which the first ones are added, and the next one is not because it can change. -/
def BreaksOffAfter (before values : List Value) : Prop :=
  (∀ r ∈ before, r.hashable = true)
    ∧ ∃ changeable rest, changeable.hashable = false ∧ values = before ++ changeable :: rest

/-- Rights that are not all added break off somewhere. -/
theorem exists_breaksOffAfter (h : ∃ r ∈ values, r.hashable = false) :
    ∃ before, BreaksOffAfter before values := by
  induction values with
  | nil => exact absurd h (by simp)
  | cons value rest ih =>
    cases hvalue : value.hashable with
    | false => exact ⟨[], by simp, value, rest, hvalue, rfl⟩
    | true =>
      have hrest : ∃ r ∈ rest, r.hashable = false := by
        obtain ⟨r, hr, hchangeable⟩ := h
        rcases List.mem_cons.1 hr with rfl | hr
        · exact absurd (hvalue.symm.trans hchangeable) (by simp)
        · exact ⟨r, hr, hchangeable⟩
      obtain ⟨before, hbefore, changeable, after, hchangeable, rfl⟩ := ih hrest
      exact ⟨value :: before, List.forall_mem_cons.2 ⟨hvalue, hbefore⟩, changeable, after,
        hchangeable, rfl⟩

theorem BreaksOffAfter.changeable (h : BreaksOffAfter before values) :
    ∃ r ∈ values, r.hashable = false := by
  obtain ⟨-, changeable, rest, hchangeable, rfl⟩ := h
  exact ⟨changeable, List.mem_append_right _ (List.mem_cons_self ..), hchangeable⟩

/-- The rights before the one that can change are added, and stay. -/
theorem insertRights_of_breaksOff (h : BreaksOffAfter before values) :
    insertRights rights values = (.error .wrongType, (insertRights rights before).2) := by
  obtain ⟨hbefore, changeable, rest, hchangeable, rfl⟩ := h
  induction before generalizing rights with
  | nil => simp [insertRights, insertRight, hchangeable]
  | cons value before ih =>
    obtain ⟨hvalue, hbefore⟩ := List.forall_mem_cons.1 hbefore
    have hfirst : insertRight rights value = _ := insertRight_eq_ok_iff.2 ⟨hvalue, rfl⟩
    rw [List.cons_append, insertRights, insertRights, hfirst]
    exact ih hbefore

/-- Rights come in behind those that are there. -/
theorem prefix_insertRights (rights new : List Value) : rights <+: (insertRights rights new).2 := by
  induction new generalizing rights with
  | nil => exact List.prefix_refl _
  | cons right rest ih =>
    rw [insertRights]
    split
    · next between hfirst =>
      obtain ⟨-, rfl⟩ := insertRight_eq_ok_iff.1 hfirst
      refine List.IsPrefix.trans ?_ (ih _)
      split
      · exact List.prefix_refl _
      · exact List.prefix_append _ _
    · exact List.prefix_refl _

/-- Nothing changes if all rights are there, and only then. -/
theorem insertRights_eq_self_iff {new : List Value} (h : ∀ r ∈ new, r.hashable = true) :
    (insertRights rights new).2 = rights ↔ ∀ r ∈ new, rights.any (·.same r) = true := by
  induction new with
  | nil => simp [insertRights]
  | cons right rest ih =>
    obtain ⟨hright, hrest⟩ := List.forall_mem_cons.1 h
    have hfirst : insertRight rights right = _ := insertRight_eq_ok_iff.2 ⟨hright, rfl⟩
    rw [List.forall_mem_cons, insertRights, hfirst]
    by_cases hany : rights.any (·.same right) = true
    · rw [if_pos hany, and_iff_right hany]
      exact ih hrest
    · rw [if_neg hany]
      refine iff_of_false (fun hsame => ?_) fun hall => hany hall.1
      have hmore := (prefix_insertRights (rights ++ [right]) rest).length_le
      rw [hsame, List.length_append, List.length_singleton] at hmore
      omega

/-- What a collection makes of the profile. -/
theorem snd_grantAll (p : Profile) {k : RightKind} {collection : Value}
    (h : rightsOf k collection = .ok values) :
    (p.grantAll k collection).2 = p.withRights k (insertRights (p.rights k) values).2 := by
  rw [grantAll, h]
  dsimp only
  split
  · next hinsert => rw [hinsert]
  · next hinsert => rw [hinsert]

/-- A collection fails if one of its rights can change. -/
theorem exists_grantAll_eq_error_iff (p : Profile) {k : RightKind} {collection : Value}
    (h : rightsOf k collection = .ok values) :
    (∃ failure, (p.grantAll k collection).1 = .error failure) ↔
      ∃ r ∈ values, r.hashable = false := by
  have hall : (∃ after, insertRights (p.rights k) values = (.ok (), after)) ↔
      ¬ ∃ r ∈ values, r.hashable = false := by
    rw [exists_insertRights_iff]
    simp
  rw [← not_iff_not, ← hall, grantAll, h]
  dsimp only
  split
  · next after hinsert => simp [hinsert]
  · next cause after hinsert => simp [hinsert]

/-- **A failure leaves the rights of a profile as they were exactly if they have all that comes
    before the first right that can change.** -/
theorem grantAll_changes_nothing_iff (p : Profile) (k : RightKind) (collection : Value) :
    (∀ failure, (p.grantAll k collection).1 = .error failure →
        ∀ k', (p.grantAll k collection).2.rights k' = p.rights k')
      ↔ ∀ values before, rightsOf k collection = .ok values → BreaksOffAfter before values →
          ∀ r ∈ before, (p.rights k).any (·.same r) = true := by
  cases hvalues : rightsOf k collection with
  | error failure =>
    have hsame : (p.grantAll k collection).2 = p := by rw [grantAll, hvalues]
    exact iff_of_true (fun _ _ _ => by rw [hsame]) fun _ _ h => absurd h (by simp)
  | ok values =>
    have hafter := p.snd_grantAll hvalues
    have hfails := p.exists_grantAll_eq_error_iff hvalues
    constructor
    · rintro hsame _ before heq hbreaks
      obtain rfl := Except.ok.inj heq
      obtain ⟨failure, hfailure⟩ := hfails.2 hbreaks.changeable
      have hkept := hsame failure hfailure k
      rw [hafter, rights_withRights, insertRights_of_breaksOff hbreaks] at hkept
      exact (insertRights_eq_self_iff hbreaks.1).1 hkept
    · intro hall failure hfailure k'
      obtain ⟨before, hbreaks⟩ := exists_breaksOffAfter (hfails.1 ⟨failure, hfailure⟩)
      have hkept := (insertRights_eq_self_iff hbreaks.1).2 (hall values before rfl hbreaks)
      rw [hafter, insertRights_of_breaksOff hbreaks, hkept]
      by_cases hk : k = k'
      · rw [← hk]
        exact rights_withRights p k _
      · exact rights_withRights_of_ne p hk _

/-- A role that comes before one that can change stays, although the call fails. -/
theorem grantAll_keeps_some :
    (grantAll { kind := .user } .role (.list [.text "a", .list []])).1
        = .error (.fault .wrongType)
      ∧ (grantAll { kind := .user } .role (.list [.text "a", .list []])).2.roles = [.text "a"] := by
  exact ⟨rfl, rfl⟩

end RelyingParty.Profile
