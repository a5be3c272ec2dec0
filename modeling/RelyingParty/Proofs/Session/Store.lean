import RelyingParty.Proofs.Entries
import RelyingParty.Session.Store

set_option autoImplicit false

/-! # Sessions of requests

A request belongs to a session if its cookie names one that is live, and finds in it what is held
there. A session that is ended is live no more, unless it is started again under the identifier it
had. -/

namespace RelyingParty.SessionStore

/-- The session that a request's cookie names is live, and holds a value under a key. -/
def Holds (s : SessionStore) (e : Exchange) (key : String) (v : Value) : Prop :=
  ∃ id data, e.cookie? s.cookieName = some id ∧ id ≠ "" ∧ s.sessions.get? id = some data
    ∧ Entries.get? data key = some v

/-- A request belongs to the session its cookie names, if that session is live. -/
theorem resolve_eq_some_iff {s : SessionStore} {e : Exchange} {id : String} :
    s.resolve e = some id ↔
      e.cookie? s.cookieName = some id ∧ id ≠ "" ∧ s.contains id = true := by
  unfold resolve
  split
  · next name hname =>
    rw [hname, Option.some.injEq]
    split
    · next hlive =>
      rw [Option.some.injEq]
      constructor
      · rintro rfl
        exact ⟨rfl, hlive⟩
      · rintro ⟨rfl, -⟩
        rfl
    · next hlive =>
      constructor
      · intro h
        exact absurd h (by simp)
      · rintro ⟨rfl, hlive'⟩
        exact absurd hlive' hlive
  · next hname => simp [hname]

/-- A request comes from the browser that has the cookie of a session, live or not. -/
def IsBrowserOf (s : SessionStore) (e : Exchange) (id : String) : Prop :=
  e.cookie? s.cookieName = some id ∧ id ≠ ""

theorem IsBrowserOf.resolve {s : SessionStore} {e : Exchange} {id : String} (h : s.IsBrowserOf e id)
    (hlive : s.contains id = true) : s.resolve e = some id :=
  resolve_eq_some_iff.2 ⟨h.1, h.2, hlive⟩

/-- What a request finds is what its session holds. -/
theorem get?_eq_some_iff {s : SessionStore} {e : Exchange} {key : String} {v : Value} :
    s.get? e key = some v ↔ s.Holds e key v := by
  unfold get? Holds
  rw [Option.bind_eq_some_iff]
  constructor
  · rintro ⟨id, hid, hv⟩
    obtain ⟨hcookie, hne, hlive⟩ := resolve_eq_some_iff.1 hid
    obtain ⟨data, hdata⟩ := Option.isSome_iff_exists.1 hlive
    rw [hdata] at hv
    exact ⟨id, data, hcookie, hne, hdata, hv⟩
  · rintro ⟨id, data, hcookie, hne, hdata, hv⟩
    have hlive : s.contains id = true := by
      rw [contains, Entries.contains, hdata]
      rfl
    refine ⟨id, resolve_eq_some_iff.2 ⟨hcookie, hne, hlive⟩, ?_⟩
    rw [hdata]
    exact hv

/-! ## Starting and ending sessions -/

/-- Each session is there once. -/
def Distinct (s : SessionStore) : Prop := s.sessions.keys.Nodup

theorem Distinct.destroy {s : SessionStore} (h : s.Distinct) (id : String) :
    (s.destroy id).Distinct :=
  Entries.nodup_keys_erase h id

theorem Distinct.resolveOrStart {s : SessionStore} (h : s.Distinct) (e : Exchange) :
    (s.resolveOrStart e).2.1.Distinct := by
  unfold SessionStore.resolveOrStart
  split
  · exact h
  · exact Entries.nodup_keys_insert h _ _

/-- What is ended is the session named, and no other one. -/
theorem contains_destroy {s : SessionStore} (h : s.Distinct) {ended id : String} :
    (s.destroy ended).contains id = true ↔ id ≠ ended ∧ s.contains id = true := by
  by_cases heq : id = ended
  · have hgone : (s.sessions.erase id).get? id = none := Entries.get?_erase_self _ _ h
    subst heq
    simp [contains, destroy, Entries.contains, hgone]
  · have hkept : (s.sessions.erase ended).get? id = s.sessions.get? id :=
      Entries.get?_erase_of_ne _ (Ne.symm heq)
    simp [contains, destroy, Entries.contains, hkept, heq]

/-- What is started is the session of the request, and no other one. -/
theorem contains_resolveOrStart {s : SessionStore} {e : Exchange} {id : String} :
    (s.resolveOrStart e).2.1.contains id = true ↔
      id = (s.resolveOrStart e).1 ∨ s.contains id = true := by
  cases hresolve : s.resolve e with
  | some mine =>
    rw [resolveOrStart_of_resolve hresolve]
    refine ⟨Or.inr, ?_⟩
    rintro (rfl | hlive)
    · exact contains_of_resolve hresolve
    · exact hlive
  | none =>
    simp only [resolveOrStart, hresolve, contains, Entries.contains, Entries.get?_insert]
    by_cases heq : id = s.supply.take.1
    · simp [heq]
    · have hne : (s.supply.take.1 == id) = false := beq_eq_false_iff_ne.2 (Ne.symm heq)
      simp [hne, heq]

theorem cookieName_resolveOrStart {s : SessionStore} {e : Exchange} :
    (s.resolveOrStart e).2.1.cookieName = s.cookieName := by
  unfold resolveOrStart
  split
  · rfl
  · rfl

/-! ## Ending a session that may be found

Handlers look for a session and end it if they find one. -/

section Ended

variable {s : SessionStore} {found : Option String} {id : String}

theorem Distinct.ended (h : s.Distinct) (found : Option String) :
    ((found.map s.destroy).getD s).Distinct := by
  cases found with
  | none => exact h
  | some ended => exact h.destroy ended

theorem cookieName_ended : ((found.map s.destroy).getD s).cookieName = s.cookieName := by
  cases found with
  | none => rfl
  | some _ => rfl

theorem contains_ended (h : s.Distinct) :
    ((found.map s.destroy).getD s).contains id = true ↔ found ≠ some id ∧ s.contains id = true := by
  cases found with
  | none => simp
  | some ended =>
    rw [Option.map_some, Option.getD_some, contains_destroy h, ne_eq, ne_eq, Option.some.injEq,
      eq_comm]

/-- What is over now was the session found. -/
theorem eq_of_over_ended (h : s.Distinct) (hlive : s.contains id = true)
    (hover : ((found.map s.destroy).getD s).contains id = false) : found = some id := by
  refine Classical.byContradiction fun hother => ?_
  rw [(contains_ended h).2 ⟨hother, hlive⟩] at hover
  exact absurd hover (by decide)

/-- A session that is over stays so. -/
theorem over_ended (h : s.Distinct) (hover : s.contains id = false) :
    ((found.map s.destroy).getD s).contains id = false := by
  rw [Bool.eq_false_iff, ne_eq, contains_ended h, hover]
  simp

theorem over_ended_self (h : s.Distinct) :
    (((some id).map s.destroy).getD s).contains id = false := by
  rw [Bool.eq_false_iff, ne_eq, contains_ended h]
  simp

/-- A request whose session has been ended has none. -/
theorem resolve_ended (h : s.Distinct) (e : Exchange) :
    (((s.resolve e).map s.destroy).getD s).resolve e = none := by
  rw [Option.eq_none_iff_forall_ne_some]
  intro id hid
  obtain ⟨hcookie, hne, hlive⟩ := resolve_eq_some_iff.1 hid
  rw [cookieName_ended] at hcookie
  obtain ⟨hother, hbefore⟩ := (contains_ended h).1 hlive
  exact hother (resolve_eq_some_iff.2 ⟨hcookie, hne, hbefore⟩)

end Ended

end RelyingParty.SessionStore
