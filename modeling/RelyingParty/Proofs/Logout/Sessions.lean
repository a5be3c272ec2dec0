import RelyingParty.Proofs.Logout.BackChannel
import RelyingParty.Proofs.Session.Index

set_option autoImplicit false

/-! # The sessions of a site

A site that ends sessions by an index keeps the index in one place. What happens to its sessions is
what happens to the store and to that index, and nothing that happens moves the index, files names
differently, or lets another cookie name a session. -/

namespace RelyingParty.Logout.Sessions

/-- Sessions are ended by the index in a place, and each of them is there once. -/
structure Indexed (s : Sessions) (place : Nat) : Prop where
  handler : s.handler = .indexed place
  inRange : place < s.indexes.length
  distinct : s.store.Distinct

/-- The index in a place. -/
def index (s : Sessions) (place : Nat) : SessionIndex := s.indexes.read place

/-- A logout for a name would end a session, or the session is over. -/
def Reaches (s : Sessions) (place : Nat) (sid id : String) : Prop :=
  (s.index place).Reaches s.store sid id

/-- Sessions have become others: names are filed as before, and sessions are named by the same
    cookie. -/
structure Succeeds (s' s : Sessions) (place : Nat) : Prop where
  indexed : s'.Indexed place
  entry : (s'.index place).entry = (s.index place).entry
  cookieName : s'.store.cookieName = s.store.cookieName

variable {s s' s'' : Sessions} {place : Nat}

theorem Indexed.succeeds (h : s.Indexed place) : s.Succeeds s place := ⟨h, rfl, rfl⟩

theorem Succeeds.trans (h' : s''.Succeeds s' place) (h : s'.Succeeds s place) :
    s''.Succeeds s place :=
  ⟨h'.indexed, h'.entry.trans h.entry, h'.cookieName.trans h.cookieName⟩

/-- Another store, and another index in the place. -/
def updated (s : Sessions) (place : Nat) (i : SessionIndex) (t : SessionStore) : Sessions :=
  { s with store := t, indexes := s.indexes.write place i }

theorem index_updated (h : s.Indexed place) (i : SessionIndex) (t : SessionStore) :
    (s.updated place i t).index place = i := by
  have hget : (s.indexes.set place i)[place]? = some i := List.getElem?_set_self h.inRange
  rw [index, updated, IndexCells.read, IndexCells.write, List.getD_eq_getElem?_getD, hget,
    Option.getD_some]

theorem updated_updated (s : Sessions) (place : Nat) (i j : SessionIndex) (t u : SessionStore) :
    (s.updated place i t).updated place j u = s.updated place j u := by
  simp only [updated, IndexCells.write, List.set_set]

theorem Indexed.updated (h : s.Indexed place) (i : SessionIndex) {t : SessionStore}
    (ht : t.Distinct) : (s.updated place i t).Indexed place :=
  ⟨h.handler, by simpa [Sessions.updated, IndexCells.write] using h.inRange, ht⟩

theorem succeeds_updated (h : s.Indexed place) {i : SessionIndex} {t : SessionStore}
    (hi : i.entry = (s.index place).entry) (ht : t.Distinct)
    (hcookie : t.cookieName = s.store.cookieName) : (s.updated place i t).Succeeds s place where
  indexed := h.updated i ht
  entry := by rw [index_updated h, hi]
  cookieName := hcookie

/-! ## What happens to them -/

variable {v : Value} {e : Exchange} {sid id : String}

theorem logoutBack_eq_map (h : s.handler = .indexed place) :
    s.logoutBack v
      = ((s.index place).logoutBack s.store v).map fun r => s.updated place r.1 r.2 := by
  obtain ⟨store, indexes, handler⟩ := s
  obtain rfl : handler = .indexed place := h
  rfl

theorem logoutFront_eq_map (h : s.handler = .indexed place) :
    s.logoutFront e v
      = ((s.index place).logoutFront s.store e v).map fun r => s.updated place r.1 r.2 := by
  obtain ⟨store, indexes, handler⟩ := s
  obtain rfl : handler = .indexed place := h
  rfl

/-- Carrying out a logout comes to a fault if a shared index has no key for the session named. -/
theorem logoutBack_fault_iff {cause : Fault} (hv : v = .null ∨ v.isText = true) :
    s.logoutBack v = .error cause ↔
      cause = .notEncodable ∧ (∃ points, v = .brokenText points ∧ points ≠ [])
        ∧ ∃ place, s.handler = .indexed place
          ∧ ∃ index store, s.indexes.read place = .shared index store := by
  unfold logoutBack
  cases s.handler with
  | recording front back => simp
  | indexed place =>
    dsimp only
    rw [map_eq_error_iff, SessionIndex.logoutBack_fault_iff hv]
    simp

/-- A front-channel logout comes to no fault. -/
theorem exists_logoutFront (s : Sessions) (e : Exchange) (sid : Option String) :
    ∃ s', s.logoutFront e (Value.ofText? sid) = .ok s' := by
  unfold logoutFront
  cases s.handler with
  | recording front back => exact ⟨_, rfl⟩
  | indexed place =>
    obtain ⟨r, hindex⟩ := (s.indexes.read place).exists_logoutFront s.store e sid
    dsimp only
    rw [hindex]
    exact ⟨_, rfl⟩

theorem succeeds_logoutBack (h : s.Indexed place) (hback : s.logoutBack v = .ok s') :
    s'.Succeeds s place := by
  rw [logoutBack_eq_map h.handler, map_eq_ok_iff] at hback
  obtain ⟨⟨i, t⟩, hindex, rfl⟩ := hback
  rcases SessionIndex.logoutBack_cases hindex with ⟨rfl, rfl, -⟩ | ⟨name, -, -, rfl, rfl⟩
  · exact succeeds_updated h rfl h.distinct rfl
  · exact succeeds_updated h (SessionIndex.entry_remove _ _)
      (h.distinct.ended _) SessionStore.cookieName_ended

theorem succeeds_logoutFront (h : s.Indexed place) (hfront : s.logoutFront e v = .ok s') :
    s'.Succeeds s place := by
  rw [logoutFront_eq_map h.handler, map_eq_ok_iff] at hfront
  obtain ⟨⟨i, t⟩, hindex, rfl⟩ := hfront
  obtain ⟨rfl, rfl | ⟨name, -, rfl⟩⟩ := SessionIndex.logoutFront_cases hindex
  · exact succeeds_updated h rfl (h.distinct.ended _) SessionStore.cookieName_ended
  · exact succeeds_updated h (SessionIndex.entry_remove _ _)
      (h.distinct.ended _) SessionStore.cookieName_ended

/-! ## Sessions that are over, and sessions that are reached -/

theorem over_logoutBack (h : s.Indexed place) (hover : s.store.contains id = false)
    (hback : s.logoutBack v = .ok s') : s'.store.contains id = false := by
  rw [logoutBack_eq_map h.handler, map_eq_ok_iff] at hback
  obtain ⟨⟨i, t⟩, hindex, rfl⟩ := hback
  exact SessionIndex.over_logoutBack h.distinct hover hindex

theorem over_logoutFront (h : s.Indexed place) (hover : s.store.contains id = false)
    (hfront : s.logoutFront e v = .ok s') : s'.store.contains id = false := by
  rw [logoutFront_eq_map h.handler, map_eq_ok_iff] at hfront
  obtain ⟨⟨i, t⟩, hindex, rfl⟩ := hfront
  exact SessionIndex.over_logoutFront h.distinct hover hindex

theorem Reaches.logoutBack (h : s.Indexed place) (hreaches : s.Reaches place sid id)
    (hback : s.logoutBack v = .ok s') : s'.Reaches place sid id := by
  rw [logoutBack_eq_map h.handler, map_eq_ok_iff] at hback
  obtain ⟨⟨i, t⟩, hindex, rfl⟩ := hback
  rw [Reaches, index_updated h]
  exact SessionIndex.Reaches.logoutBack h.distinct hreaches hindex

theorem Reaches.over_of_logoutBack (h : s.Indexed place) (hreaches : s.Reaches place sid id)
    (hne : sid ≠ "") (hback : s.logoutBack (.text sid) = .ok s') : s'.store.contains id = false := by
  rw [logoutBack_eq_map h.handler, map_eq_ok_iff] at hback
  obtain ⟨⟨i, t⟩, hindex, rfl⟩ := hback
  exact SessionIndex.Reaches.over_of_logoutBack h.distinct hreaches hne hindex

theorem Reaches.logoutFront (h : s.Indexed place) (hreaches : s.Reaches place sid id)
    (hbrowser : ∀ name, v = .text name → (s.index place).entry name = (s.index place).entry sid →
      s.store.IsBrowserOf e id)
    (hfront : s.logoutFront e v = .ok s') : s'.Reaches place sid id := by
  rw [logoutFront_eq_map h.handler, map_eq_ok_iff] at hfront
  obtain ⟨⟨i, t⟩, hindex, rfl⟩ := hfront
  rw [Reaches, index_updated h]
  exact SessionIndex.Reaches.logoutFront h.distinct hreaches hbrowser hindex

end RelyingParty.Logout.Sessions
