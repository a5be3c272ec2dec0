import Mathlib.Data.Set.Function
import RelyingParty.Proofs.Session.Index

set_option autoImplicit false

/-! # What an index finds under names

An index that tells names apart finds under each of them what was recorded for it last, and nothing
once it was forgotten: `TellsApart.put`, `TellsApart.get?_remove`, `TellsApart.get?_forgotten`. An
index in memory tells all names apart, a shared one those that have different keys. -/

namespace RelyingParty.SessionIndex

/-! ## Kinds of indexes -/

/-- How an index uses a shared store, if it does. -/
def shared? : SessionIndex → Option SharedIndex
  | .memory _ => none
  | .shared index _ => some index

variable {i j : SessionIndex} {names : Set String} {sid other id : String} {v : Value}

/-- Indexes of one kind file names alike. -/
theorem entry_congr (h : i.shared? = j.shared?) : i.entry = j.entry := by
  cases i with
  | memory sessions =>
    cases j with
    | memory sessions' => rfl
    | shared index store => exact absurd h (by simp [shared?])
  | shared index store =>
    cases j with
    | memory sessions => exact absurd h (by simp [shared?])
    | shared index' store' =>
      obtain rfl := Option.some.inj h
      rfl

@[simp] theorem shared?_remove (i : SessionIndex) (sid : String) :
    (i.remove sid).shared? = i.shared? := by
  cases i with
  | memory sessions => rfl
  | shared index store => rfl

theorem shared?_put (h : i.put sid id = .ok j) : j.shared? = i.shared? := by
  cases i with
  | memory sessions =>
    obtain rfl := Except.ok.inj h
    rfl
  | shared index store =>
    obtain ⟨store', -, rfl⟩ := map_eq_ok_iff.1 h
    rfl

/-! ## Names that are told apart -/

/-- Each entry is there once. -/
def Distinct : SessionIndex → Prop
  | .memory sessions => sessions.keys.Nodup
  | .shared _ store => store.keys.Nodup

/-- An index takes entries, and has different ones for different names. -/
structure TellsApart (i : SessionIndex) (names : Set String) : Prop where
  distinct : i.Distinct
  accepts : i.Accepts
  injective : Set.InjOn i.entry names

theorem tellsApart_memory {sessions : Entries String String} (h : sessions.keys.Nodup) :
    (memory sessions).TellsApart names :=
  ⟨h, trivial, fun _ _ _ _ => id⟩

theorem Distinct.put (h : i.Distinct) (hput : i.put sid id = .ok j) : j.Distinct := by
  cases i with
  | memory sessions =>
    obtain rfl := Except.ok.inj hput
    exact Entries.nodup_keys_insert h _ _
  | shared index store =>
    obtain ⟨store', hstored, rfl⟩ := map_eq_ok_iff.1 hput
    obtain ⟨expires, rfl⟩ := SharedIndex.put_eq_ok hstored
    exact Entries.nodup_keys_insert h _ _

theorem Distinct.remove (h : i.Distinct) (sid : String) : (i.remove sid).Distinct := by
  cases i with
  | memory sessions => exact Entries.nodup_keys_erase h sid
  | shared index store => exact Entries.nodup_keys_erase h (index.key sid)

theorem Distinct.get?_remove_self (h : i.Distinct) (sid : String) :
    (i.remove sid).get? sid = none := by
  cases i with
  | memory sessions => exact Entries.get?_erase_self _ _ h
  | shared index store => exact congrArg (Option.map _) (Entries.get?_erase_self _ _ h)

theorem Distinct.remove_remove_self (h : i.Distinct) (sid : String) :
    (i.remove sid).remove sid = i.remove sid := by
  cases i with
  | memory sessions => exact congrArg memory (Entries.erase_erase_self h sid)
  | shared index store => exact congrArg (shared index) (Entries.erase_erase_self h (index.key sid))

/-- What a front-channel logout has forgotten may be forgotten again. -/
theorem Distinct.forget_forget (h : i.Distinct) (hforget : i.forget v = .ok j) :
    j.forget v = .ok j := by
  unfold forget at hforget ⊢
  cases htruthy : v.truthy with
  | false => rfl
  | true =>
    rw [htruthy, if_pos rfl, map_eq_ok_iff] at hforget
    obtain ⟨name, hname, rfl⟩ := hforget
    cases name with
    | none =>
      show (i.nameOf v).map _ = _
      rw [hname]
      rfl
    | some sid =>
      obtain rfl := nameOf_eq_some_iff.1 hname
      show Except.ok ((i.remove sid).remove sid) = .ok (i.remove sid)
      rw [h.remove_remove_self]

/-- A front-channel logout that is repeated changes nothing. -/
theorem Distinct.logoutFront_logoutFront (h : i.Distinct) {s t : SessionStore} (hs : s.Distinct)
    {e : Exchange} (hfront : i.logoutFront s e v = .ok (j, t)) :
    j.logoutFront t e v = .ok (j, t) := by
  unfold SessionIndex.logoutFront at hfront ⊢
  rw [map_eq_ok_iff] at hfront
  obtain ⟨j', hforget, hpair⟩ := hfront
  obtain ⟨rfl, rfl⟩ := Prod.mk.inj hpair
  rw [h.forget_forget hforget, SessionStore.resolve_ended hs]
  rfl

/-- Recording changes what is found under the one name. -/
theorem TellsApart.put (h : i.TellsApart names) (hsid : sid ∈ names) (id : String) :
    ∃ j, i.put sid id = .ok j ∧ j.TellsApart names
      ∧ ∀ other ∈ names, j.get? other = if sid = other then some id else i.get? other := by
  obtain ⟨j, hput, haccepts⟩ := h.accepts.put sid id
  obtain ⟨hentry, hget⟩ := put_eq_ok hput
  refine ⟨j, hput, ⟨h.distinct.put hput, haccepts, hentry ▸ h.injective⟩, fun other hother => ?_⟩
  rw [hget]
  by_cases hname : sid = other
  · rw [if_pos (congrArg _ hname), if_pos hname]
  · rw [if_neg fun hsame => hname (h.injective hsid hother hsame), if_neg hname]

theorem TellsApart.remove (h : i.TellsApart names) (sid : String) :
    (i.remove sid).TellsApart names :=
  ⟨h.distinct.remove sid, h.accepts.remove sid, entry_remove i sid ▸ h.injective⟩

/-- Forgetting a name changes what is found under it only. -/
theorem TellsApart.get?_remove (h : i.TellsApart names) (hsid : sid ∈ names)
    (hother : other ∈ names) :
    (i.remove sid).get? other = if sid = other then none else i.get? other := by
  by_cases hname : sid = other
  · rw [if_pos hname, ← hname]
    exact h.distinct.get?_remove_self sid
  · rw [if_neg hname]
    exact get?_remove_of_ne fun hsame => hname (h.injective hsid hother hsame)

/-! ## Names that logouts give -/

theorem TellsApart.forgotten (h : i.TellsApart names) (v : Value) :
    (i.forgotten v).TellsApart names := by
  unfold SessionIndex.forgotten
  cases named? v with
  | none => exact h
  | some name => exact h.remove name

/-- What was named is not found any more, and all else is as before. -/
theorem TellsApart.get?_forgotten (h : i.TellsApart names)
    (hv : ∀ name, named? v = some name → name ∈ names) (hsid : sid ∈ names) :
    (i.forgotten v).get? sid = if named? v = some sid then none else i.get? sid := by
  unfold SessionIndex.forgotten
  cases hname : named? v with
  | none => rfl
  | some name =>
    simp only [Option.elim_some, Option.some.injEq]
    exact h.get?_remove (hv name hname) hsid

end RelyingParty.SessionIndex
