import RelyingParty.Proofs.Logout.Sessions
import RelyingParty.Proofs.Session.Lookup

set_option autoImplicit false

/-! # What is done to the sessions of a site

An application records sessions through a handler, and browsers and the provider log out through it.
Besides, whoever has the index of the handler may change its entries. `perform` says what comes of
each of these; the lemmas after it say what that means for the index and the store. -/

namespace RelyingParty.Logout

/-- What is done through a handler. -/
inductive Action where
  /-- An application records the session of a request for a session of the provider. -/
  | record (e : Exchange) (sid : String)
  /-- A browser logs out, and may name a session of the provider. -/
  | front (e : Exchange) (sid : Value)
  /-- The provider logs out. -/
  | back (sid : Value)

/-- What is done through a handler, or with the index it uses. -/
inductive Operation where
  | handle (a : Action)
  | put (sid id : String)
  | get (sid : String)
  | remove (sid : String)

namespace Sessions

/-- What comes of an operation. -/
structure Performed where
  result : Except Fault (Option String)
  sessions : Sessions
  /-- The request with the headers set for its response. -/
  exchange : Option Exchange

/-- Log out; a logout that comes to a fault changes nothing. -/
def loggedOut (s : Sessions) (after : Except Fault Sessions) (e : Option Exchange) : Performed :=
  match after with
  | .ok s' => ⟨.ok none, s', e⟩
  | .error cause => ⟨.error cause, s, e⟩

/-- Do something through the handler. -/
def act (s : Sessions) : Action → Performed
  | .record e sid =>
    let (result, s, e) := s.record e sid
    ⟨result.map fun _ => none, s, some e⟩
  | .front e sid => s.loggedOut (s.logoutFront e sid) (some e)
  | .back sid => s.loggedOut (s.logoutBack sid) none

/-- Do something with the index of the handler. -/
def onIndex (s : Sessions) (f : SessionIndex → Except Fault (Option String × SessionIndex)) :
    Performed :=
  match s.handler with
  | .recording .. => ⟨.error .missingOperation, s, none⟩
  | .indexed place =>
    match f (s.indexes.read place) with
    | .ok (result, i) => ⟨.ok result, { s with indexes := s.indexes.write place i }, none⟩
    | .error cause => ⟨.error cause, s, none⟩

/-- Carry out an operation. -/
def perform (s : Sessions) : Operation → Performed
  | .handle a => s.act a
  | .put sid id => s.onIndex fun i => (i.put sid id).map fun i => (none, i)
  | .get sid => s.onIndex fun i => .ok (i.get? sid, i)
  | .remove sid => s.onIndex fun i => .ok (i.get? sid, i.remove sid)

variable {s : Sessions} {place : Nat} {e : Exchange} {sid id : String} {v : Value}

/-! ## On a handler with an index -/

/-- Recording files the session of the request. -/
theorem act_record_of_ok (h : s.handler = .indexed place) (hne : sid ≠ "") {i : SessionIndex}
    (hput : (s.index place).put sid (s.store.resolveOrStart e).1 = .ok i) :
    s.act (.record e sid)
      = ⟨.ok none, s.updated place i (s.store.resolveOrStart e).2.1,
        some (s.store.resolveOrStart e).2.2⟩ := by
  obtain ⟨store, indexes, handler⟩ := s
  obtain rfl : handler = .indexed place := h
  have hrecord : (indexes.read place).record store e sid
      = (.ok i, (store.resolveOrStart e).2) :=
    (SessionIndex.record_of_ne hne).trans (by rw [← hput, index])
  simp only [act, record, hrecord]
  rfl

/-- The session that was started for a record stays, even if the index refuses the entry. -/
theorem act_record_of_error (h : s.handler = .indexed place) (hne : sid ≠ "") {cause : Fault}
    (hput : (s.index place).put sid (s.store.resolveOrStart e).1 = .error cause) :
    s.act (.record e sid)
      = ⟨.error cause, s.updated place (s.index place) (s.store.resolveOrStart e).2.1,
        some (s.store.resolveOrStart e).2.2⟩ := by
  obtain ⟨store, indexes, handler⟩ := s
  obtain rfl : handler = .indexed place := h
  have hrecord : (indexes.read place).record store e sid
      = (.error cause, (store.resolveOrStart e).2) :=
    (SessionIndex.record_of_ne hne).trans (by rw [← hput, index])
  simp only [act, record, hrecord, updated, index, write_read]
  rfl

theorem act_record_empty (h : s.handler = .indexed place) :
    s.act (.record e "") = ⟨.ok none, s.updated place (s.index place) s.store, some e⟩ := by
  obtain ⟨store, indexes, handler⟩ := s
  obtain rfl : handler = .indexed place := h
  rfl

/-- A front-channel logout forgets what it names and ends the session of the browser, or it comes to
    a fault. -/
theorem act_front (h : s.handler = .indexed place) (e : Exchange) (v : Value) :
    s.act (.front e v) = ⟨.ok none, s.updated place ((s.index place).forgotten v)
        (((s.store.resolve e).map s.store.destroy).getD s.store), some e⟩
      ∨ (∃ cause, s.act (.front e v) = ⟨.error cause, s, some e⟩)
        ∧ ∀ sid, v ≠ Value.ofText? sid := by
  rw [act, logoutFront_eq_map h]
  rcases (s.index place).logoutFront_ok_or_error s.store e v with hok | ⟨⟨cause, hfault⟩, hother⟩
  · rw [hok]
    exact Or.inl rfl
  · rw [hfault]
    exact Or.inr ⟨⟨cause, rfl⟩, hother⟩

/-- A back-channel logout forgets what it names and ends the session that it finds, or it comes to a
    fault. -/
theorem act_back (h : s.handler = .indexed place) (v : Value) :
    s.act (.back v) = ⟨.ok none, s.updated place ((s.index place).forgotten v)
        ((((s.index place).found? v).map s.store.destroy).getD s.store), none⟩
      ∨ (∃ cause, s.act (.back v) = ⟨.error cause, s, none⟩) ∧ ∀ sid, v ≠ Value.ofText? sid := by
  rw [act, logoutBack_eq_map h]
  rcases (s.index place).logoutBack_ok_or_error s.store v with hok | ⟨⟨cause, hfault⟩, hother⟩
  · rw [hok]
    exact Or.inl rfl
  · rw [hfault]
    exact Or.inr ⟨⟨cause, rfl⟩, hother⟩

/-- A logout that gives a name or none comes to no fault. -/
theorem act_front_ofText? (h : s.handler = .indexed place) (e : Exchange) (sid : Option String) :
    s.act (.front e (Value.ofText? sid))
      = ⟨.ok none, s.updated place ((s.index place).forgotten (Value.ofText? sid))
        (((s.store.resolve e).map s.store.destroy).getD s.store), some e⟩ :=
  (act_front h e (Value.ofText? sid)).resolve_right fun hfault => hfault.2 sid rfl

theorem act_back_ofText? (h : s.handler = .indexed place) (sid : Option String) :
    s.act (.back (Value.ofText? sid))
      = ⟨.ok none, s.updated place ((s.index place).forgotten (Value.ofText? sid))
        ((((s.index place).found? (Value.ofText? sid)).map s.store.destroy).getD s.store), none⟩ :=
  (act_back h (Value.ofText? sid)).resolve_right fun hfault => hfault.2 sid rfl

theorem updated_index (s : Sessions) (place : Nat) :
    s.updated place (s.index place) s.store = s := by
  rw [updated, index, write_read]

/-- The index forgets what a logout names, whether or not that comes to a fault. -/
theorem sessions_act_front (h : s.handler = .indexed place) (e : Exchange) (v : Value) :
    ∃ found, (found = none ∨ found = s.store.resolve e)
      ∧ (s.act (.front e v)).sessions = s.updated place ((s.index place).forgotten v)
        ((found.map s.store.destroy).getD s.store) := by
  rcases act_front h e v with hok | ⟨⟨cause, hfault⟩, hother⟩
  · exact ⟨_, Or.inr rfl, congrArg Performed.sessions hok⟩
  · refine ⟨none, Or.inl rfl, ?_⟩
    rw [hfault, SessionIndex.forgotten_of_unnamed hother]
    exact (updated_index s place).symm

theorem sessions_act_back (h : s.handler = .indexed place) (v : Value) :
    ∃ found, (found = none ∨ found = (s.index place).found? v)
      ∧ (s.act (.back v)).sessions = s.updated place ((s.index place).forgotten v)
        ((found.map s.store.destroy).getD s.store) := by
  rcases act_back h v with hok | ⟨⟨cause, hfault⟩, hother⟩
  · exact ⟨_, Or.inr rfl, congrArg Performed.sessions hok⟩
  · refine ⟨none, Or.inl rfl, ?_⟩
    rw [hfault, SessionIndex.forgotten_of_unnamed hother]
    exact (updated_index s place).symm

theorem onIndex_ok (h : s.handler = .indexed place)
    {f : SessionIndex → Except Fault (Option String × SessionIndex)} {result : Option String}
    {i : SessionIndex} (hf : f (s.index place) = .ok (result, i)) :
    s.onIndex f = ⟨.ok result, s.updated place i s.store, none⟩ := by
  obtain ⟨store, indexes, handler⟩ := s
  obtain rfl : handler = .indexed place := h
  have hf : f (indexes.read place) = .ok (result, i) := hf
  simp only [onIndex, hf]
  rfl

theorem perform_put (h : s.handler = .indexed place) {i : SessionIndex}
    (hput : (s.index place).put sid id = .ok i) :
    s.perform (.put sid id) = ⟨.ok none, s.updated place i s.store, none⟩ :=
  onIndex_ok (f := fun i => (i.put sid id).map fun i => (none, i)) h (by rw [hput]; rfl)

theorem perform_put_of_error (h : s.handler = .indexed place) {cause : Fault}
    (hput : (s.index place).put sid id = .error cause) :
    s.perform (.put sid id) = ⟨.error cause, s, none⟩ := by
  obtain ⟨store, indexes, handler⟩ := s
  obtain rfl : handler = .indexed place := h
  have hput : (indexes.read place).put sid id = .error cause := hput
  simp only [perform, onIndex, hput]
  rfl

theorem perform_get (h : s.handler = .indexed place) (sid : String) :
    s.perform (.get sid) = ⟨.ok ((s.index place).get? sid), s, none⟩ := by
  have hget := onIndex_ok (f := fun i => .ok (i.get? sid, i)) h rfl
  rwa [updated_index] at hget

/-- An index says what it has and forgets it. -/
theorem perform_remove (h : s.handler = .indexed place) (sid : String) :
    s.perform (.remove sid) = ⟨.ok ((s.index place).get? sid),
      s.updated place ((s.index place).remove sid) s.store, none⟩ :=
  onIndex_ok (f := fun i => .ok (i.get? sid, i.remove sid)) h rfl

end Sessions

end RelyingParty.Logout
