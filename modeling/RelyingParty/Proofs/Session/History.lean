import RelyingParty.Proofs.Latest
import RelyingParty.Proofs.Session.Store

set_option autoImplicit false

/-! # What a store of sessions remembers

A store is known from its history: from the operations on it, the session each of them belonged to,
and the identifiers that were taken from the supply. A session is live from the time it is started
until it is ended, and under a key it holds what was set there last since it was started.

`Mirrors` says that a store is what its history tells. `Mirrors.after` is about one operation, whose
effect is read off by `effect_after`; `mirrors_history` puts any number of them together, and adds
what an operation may do to other sessions and to the request it is for. -/

namespace RelyingParty.SessionStore

/-! ## Operations -/

/-- What is done to a store, outside of any request or for one. -/
inductive Operation where
  /-- Start a session under an identifier or, without one, under a new one. -/
  | create (id : Option String)
  /-- Look for the session of a request, which may have to be started if there is none. -/
  | find (e : Exchange) (start : Bool)
  /-- Read what the session of a request holds under a key. -/
  | get (e : Exchange) (key : String)
  /-- Set a value in the session of a request, which is started if there is none. -/
  | set (e : Exchange) (key : String) (value : Value)
  /-- End a session. -/
  | destroy (id : String)

/-- The request an operation is for. -/
def Operation.request? : Operation → Option Exchange
  | .find e _ | .get e _ | .set e _ _ => some e
  | .create _ | .destroy _ => none

/-- What an operation comes to. -/
structure Performed where
  store : SessionStore
  /-- The session the operation belongs to. -/
  session : Option String
  /-- The request with the headers set for its response. -/
  exchange : Option Exchange := none

/-- Carry out an operation. -/
def perform (s : SessionStore) : Operation → Performed
  | .create id => ⟨(s.create id).2, some (s.create id).1, none⟩
  | .find e true =>
    let (id, t, e) := s.resolveOrStart e
    ⟨t, some id, some e⟩
  | .find e false => ⟨s, s.resolve e, some e⟩
  | .get e _ => ⟨s, s.resolve e, some e⟩
  | .set e key value =>
    ⟨(s.set e key value).1, some (s.resolveOrStart e).1, some (s.set e key value).2⟩
  | .destroy id => ⟨s.destroy id, some id, none⟩

/-- The store after an operation. -/
def after (s : SessionStore) (op : Operation) : SessionStore := (s.perform op).store

/-- The store after some operations. -/
def afterAll (s : SessionStore) (ops : List Operation) : SessionStore := ops.foldl after s

/-! ## Histories -/

/-- An operation that was carried out. -/
structure Event where
  operation : Operation
  /-- The session it belonged to. -/
  session : Option String
  /-- The identifier it took from the supply. -/
  generated : Option String

/-- The identifier that a store has taken from the supply since it was another one. -/
def taken (s t : SessionStore) : Option String :=
  if t.supply.used = s.supply.used then none else some s.supply.take.1

/-- An operation that is carried out on a store. -/
def event (s : SessionStore) (op : Operation) : Event :=
  ⟨op, (s.perform op).session, s.taken (s.after op)⟩

/-- What happens to a store. -/
def history (s : SessionStore) : List Operation → List Event
  | [] => []
  | op :: rest => s.event op :: (s.after op).history rest

namespace Event

/-- A session is started under an identifier that was given or taken from the supply. -/
def Starts (x : Event) (id : String) : Prop :=
  x.generated = some id ∨ x.operation = .create (some id) ∧ id ≠ ""

/-- A session is ended. -/
def Ends (x : Event) (id : String) : Prop := x.operation = .destroy id

/-- A value is set in a session. -/
def Writes (x : Event) (id key : String) (v : Value) : Prop :=
  (∃ e, x.operation = .set e key v) ∧ x.session = some id

/-- An operation names a session: it is given the identifier, or its request has it in the cookie of
    sessions. -/
def Names (cookieName : String) (x : Event) (id : String) : Prop :=
  x.operation = .create (some id) ∧ id ≠ "" ∨ x.operation = .destroy id
    ∨ ∃ e, x.operation.request? = some e ∧ e.cookie? cookieName = some id

end Event

/-- Something happened, and from then on only what is allowed. -/
def Since (p q : Event → Prop) (events : List Event) : Prop :=
  ∃ before x later, events = before ++ x :: later ∧ p x ∧ ∀ y ∈ later, q y

/-- A session was started and not ended since. -/
def Live (events : List Event) (id : String) : Prop :=
  Since (·.Starts id) (¬ ·.Ends id) events

/-- A value was set in a session under a key, and neither was another one since nor was the session
    ended. -/
def LastSet (events : List Event) (id key : String) (v : Value) : Prop :=
  Since (·.Writes id key v) (fun x => ¬ x.Ends id ∧ ∀ w, ¬ x.Writes id key w) events

/-- What is taken from the supply has not occurred before. -/
structure Fresh (cookieName : String) (events : List Event) : Prop where
  earlier : events.Pairwise fun x y =>
    ∀ id, y.generated = some id → x.generated ≠ some id ∧ ¬ x.Names cookieName id
  own : ∀ x ∈ events, ∀ id, x.generated = some id → ¬ x.Names cookieName id

/-- What happened before the last event either was the last event or is still so after it. -/
theorem since_append_singleton {p q : Event → Prop} {events : List Event} {x : Event} :
    Since p q (events ++ [x]) ↔ p x ∨ Since p q events ∧ q x :=
  latestIn_append_singleton

theorem not_since_nil {p q : Event → Prop} : ¬ Since p q [] := not_latestIn_nil

/-! ## What a session holds -/

variable {s t : SessionStore} {e : Exchange} {op : Operation} {id other key : String}

/-- What a session holds under a key. -/
def valueAt (s : SessionStore) (id key : String) : Option Value :=
  ((s.sessions.get? id).getD []).get? key

theorem get?_eq_some_iff_valueAt {v : Value} :
    s.get? e key = some v ↔ ∃ id, s.resolve e = some id ∧ s.valueAt id key = some v :=
  Option.bind_eq_some_iff

theorem valueAt_of_over (h : s.contains id = false) : s.valueAt id key = none := by
  have hnone : s.sessions.get? id = none := by
    rw [contains, Entries.contains] at h
    exact Option.isNone_iff_eq_none.1 (by simpa using h)
  rw [valueAt, hnone]
  rfl

/-! ## Starting, writing and ending -/

/-- A store with a session put into it. -/
def put (s : SessionStore) (id : String) (data : SessionData) : SessionStore :=
  { s with sessions := s.sessions.insert id data }

theorem get?_put (s : SessionStore) (id : String) (data : SessionData) (other : String) :
    (s.put id data).sessions.get? other
      = if id = other then some data else s.sessions.get? other := by
  rw [put, Entries.get?_insert]
  simp only [beq_iff_eq]

theorem contains_put {data : SessionData} :
    (s.put id data).contains other = true ↔ other = id ∨ s.contains other = true := by
  rw [contains, Entries.contains, get?_put]
  by_cases h : id = other
  · simp [h]
  · simp [h, Ne.symm h, contains, Entries.contains]

theorem valueAt_put {data : SessionData} :
    (s.put id data).valueAt other key
      = if id = other then data.get? key else s.valueAt other key := by
  rw [valueAt, get?_put]
  split
  · rfl
  · rfl

theorem valueAt_destroy (hs : s.Distinct) :
    (s.destroy id).valueAt other key = if id = other then none else s.valueAt other key := by
  split
  · next h =>
    refine valueAt_of_over (Bool.eq_false_iff.2 fun hlive => ?_)
    exact ((contains_destroy hs).1 hlive).1 h.symm
  · next h => rw [valueAt, destroy, Entries.get?_erase_of_ne _ h, valueAt]

theorem Distinct.put (h : s.Distinct) (id : String) (data : SessionData) :
    (s.put id data).Distinct :=
  Entries.nodup_keys_insert h id data

/-- A store with a value put into a session. -/
def write (s : SessionStore) (id key : String) (v : Value) : SessionStore :=
  s.put id (((s.sessions.get? id).getD []).insert key v)

theorem valueAt_write {k : String} {v : Value} :
    (s.write id key v).valueAt other k
      = if id = other ∧ key = k then some v else s.valueAt other k := by
  rw [write, valueAt_put, Entries.get?_insert]
  by_cases hid : id = other
  · rw [if_pos hid, ← hid]
    by_cases hkey : key = k
    · simp [hkey]
    · simp [hkey, valueAt]
  · rw [if_neg hid, if_neg fun h => hid h.1]

/-- A session is live that may not have been before; it holds what it held, and so do the others. -/
structure Opened (s t : SessionStore) (id : String) : Prop where
  contains : ∀ other, t.contains other = true ↔ other = id ∨ s.contains other = true
  get? : ∀ other, other ≠ id → t.sessions.get? other = s.sessions.get? other
  valueAt : ∀ other key, t.valueAt other key = s.valueAt other key
  distinct : s.Distinct → t.Distinct

theorem opened_self (h : s.contains id = true) (supply : IdSupply) :
    Opened s { s with supply } id := by
  refine ⟨fun other => ⟨Or.inr, ?_⟩, fun _ _ => rfl, fun _ _ => rfl, fun hs => hs⟩
  rintro (rfl | hother)
  · exact h
  · exact hother

/-- A store in which a session is live; it is started if it is not. -/
def opening (s : SessionStore) (id : String) (supply : IdSupply) : SessionStore :=
  if s.contains id then { s with supply } else { s.put id [] with supply }

theorem supply_opening (s : SessionStore) (id : String) (supply : IdSupply) :
    (s.opening id supply).supply = supply := by
  unfold opening
  split
  · rfl
  · rfl

theorem cookieName_opening (s : SessionStore) (id : String) (supply : IdSupply) :
    (s.opening id supply).cookieName = s.cookieName := by
  unfold opening
  split
  · rfl
  · rfl

theorem opened_opening (s : SessionStore) (id : String) (supply : IdSupply) :
    Opened s (s.opening id supply) id := by
  unfold opening
  split
  · next hlive => exact opened_self hlive supply
  · next hover =>
    have hnone : ∀ k, s.valueAt id k = none :=
      fun k => valueAt_of_over (Bool.eq_false_iff.2 hover)
    refine ⟨fun _ => contains_put, fun other hne => (get?_put s id [] other).trans
      (if_neg (Ne.symm hne)), fun other k => ?_, fun hs => hs.put id []⟩
    -- a new session holds nothing, and neither did it before it was there
    refine valueAt_put.trans ?_
    split
    · next heq => exact (heq ▸ hnone k).symm
    · rfl

/-! ## What an operation does -/

theorem taken_of_supply (h : t.supply = s.supply) : s.taken t = none :=
  if_pos (congrArg IdSupply.used h)

theorem taken_of_take (h : t.supply = s.supply.take.2) : s.taken t = some s.supply.take.1 := by
  have hused : t.supply.used = s.supply.used + 1 := congrArg IdSupply.used h
  rw [taken, if_neg (by omega)]

theorem create_of_given (hne : id ≠ "") : s.create (some id) = (id, s.opening id s.supply) := by
  cases hlive : s.contains id with
  | true => simp [create, opening, hne, hlive]
  | false => simp [create, opening, put, hne, hlive]

theorem create_of_empty {given : Option String} (h : given.getD "" = "") :
    s.create given = (s.supply.take.1, s.opening s.supply.take.1 s.supply.take.2) := by
  cases hlive : s.contains s.supply.take.1 with
  | true => simp [create, opening, h, hlive]
  | false => simp [create, opening, put, h, hlive]

/-- A request has a session, or one is started for it under a new identifier and announced. -/
theorem resolveOrStart_cases (s : SessionStore) (e : Exchange) :
    (s.resolve e = some (s.resolveOrStart e).1 ∧ s.taken (s.resolveOrStart e).2.1 = none
        ∧ (s.resolveOrStart e).2 = (s, e))
      ∨ s.resolve e = none ∧ s.taken (s.resolveOrStart e).2.1 = some (s.resolveOrStart e).1
        ∧ (s.resolveOrStart e).2.2
          = e.setHeader "Set-Cookie" (s.announcement (s.resolveOrStart e).1) := by
  cases h : s.resolve e with
  | some id =>
    rw [resolveOrStart_of_resolve h]
    exact Or.inl ⟨rfl, taken_of_supply rfl, rfl⟩
  | none =>
    rw [resolveOrStart, h]
    exact Or.inr ⟨rfl, taken_of_take rfl, rfl⟩

theorem opened_resolveOrStart (e : Exchange)
    (hfresh : ∀ id, s.taken (s.resolveOrStart e).2.1 = some id → s.contains id = false) :
    Opened s (s.resolveOrStart e).2.1 (s.resolveOrStart e).1 := by
  rcases resolveOrStart_cases s e with ⟨hresolve, -, hsame⟩ | ⟨hresolve, htaken, -⟩
  · rw [hsame]
    exact opened_self (contains_of_resolve hresolve) s.supply
  · have hover := hfresh _ htaken
    have hstart : s.resolveOrStart e = (s.supply.take.1, s.opening s.supply.take.1 s.supply.take.2,
        e.setHeader "Set-Cookie" (s.announcement s.supply.take.1)) := by
      rw [resolveOrStart, hresolve] at hover
      simp [resolveOrStart, opening, put, hresolve, hover]
    rw [hstart]
    exact opened_opening s _ _

theorem cookieName_after (s : SessionStore) (op : Operation) :
    (s.after op).cookieName = s.cookieName := by
  cases op with
  | create given =>
    by_cases hgiven : given.getD "" = ""
    · rw [after, perform, create_of_empty hgiven, cookieName_opening]
    · cases given with
      | none => exact absurd rfl hgiven
      | some id =>
        have hne : id ≠ "" := hgiven
        rw [after, perform, create_of_given hne, cookieName_opening]
  | find e start =>
    cases start with
    | false => rfl
    | true => exact cookieName_resolveOrStart
  | get e k => rfl
  | set e k v => exact cookieName_resolveOrStart
  | destroy id => rfl

theorem cookieName_afterAll (s : SessionStore) (ops : List Operation) :
    (s.afterAll ops).cookieName = s.cookieName := by
  induction ops generalizing s with
  | nil => rfl
  | cons op rest ih => exact (ih (s.after op)).trans (cookieName_after s op)

/-- **What an operation does**: it starts, ends and writes what its event says. -/
structure Effect (s t : SessionStore) (x : Event) : Prop where
  contains : ∀ id, t.contains id = true ↔ x.Starts id ∨ s.contains id = true ∧ ¬ x.Ends id
  valueAt : ∀ id key v, t.valueAt id key = some v ↔
    x.Writes id key v ∨ s.valueAt id key = some v ∧ ¬ x.Ends id ∧ ∀ w, ¬ x.Writes id key w
  kept : ∀ id, x.session ≠ some id → t.sessions.get? id = s.sessions.get? id
  distinct : t.Distinct

section Effects

variable {x : Event}

theorem effect_self (hs : s.Distinct) (hstarts : ∀ id, ¬ x.Starts id) (hends : ∀ id, ¬ x.Ends id)
    (hwrites : ∀ id key v, ¬ x.Writes id key v) : Effect s s x where
  contains id := by simp [hstarts id, hends id]
  valueAt id key v := by simp [hends id, hwrites id key]
  kept _ _ := rfl
  distinct := hs

/-- An operation that opens a session, in which it may write a value. -/
theorem Opened.effect (h : Opened s t id) (hs : s.Distinct) (hsession : x.session = some id)
    (hstarts : ∀ other, x.Starts other ∨ s.contains other = true ↔
      other = id ∨ s.contains other = true)
    (hends : ∀ other, ¬ x.Ends other) (hwrites : ∀ other key v, ¬ x.Writes other key v) :
    Effect s t x where
  contains other := by simp [h.contains other, ← hstarts other, hends other]
  valueAt other key v := by simp [h.valueAt other key, hends other, hwrites other key]
  kept other hne := h.get? other fun heq => hne (heq ▸ hsession)
  distinct := h.distinct hs

theorem Opened.effect_write (h : Opened s t id) (hs : s.Distinct) {v : Value}
    (hsession : x.session = some id)
    (hstarts : ∀ other, x.Starts other ∨ s.contains other = true ↔
      other = id ∨ s.contains other = true)
    (hends : ∀ other, ¬ x.Ends other)
    (hwrites : ∀ other k w, x.Writes other k w ↔ other = id ∧ k = key ∧ w = v) :
    Effect s (t.write id key v) x where
  contains other := by
    rw [write, contains_put, h.contains other, or_self_left, ← hstarts other]
    simp [hends other]
  valueAt other k w := by
    rw [valueAt_write, h.valueAt other k]
    by_cases hplace : id = other ∧ key = k
    · -- what is there now is what is written
      obtain ⟨rfl, rfl⟩ := hplace
      simp [hwrites, eq_comm]
    · have hnone : ∀ w', ¬ x.Writes other k w' := fun w' hw' =>
        hplace ⟨((hwrites other k w').1 hw').1.symm, ((hwrites other k w').1 hw').2.1.symm⟩
      simp [hplace, hnone, hends other]
  kept other hne := by
    have hother : id ≠ other := fun heq => hne (heq ▸ hsession)
    rw [write, get?_put, if_neg hother]
    exact h.get? other (Ne.symm hother)
  distinct := (h.distinct hs).put id _

theorem opened_create (s : SessionStore) (given : Option String) :
    Opened s (s.create given).2 (s.create given).1
      ∧ ∀ other, (s.event (.create given)).Starts other ↔ other = (s.create given).1 := by
  by_cases hgiven : given.getD "" = ""
  · have hcreate := create_of_empty (s := s) hgiven
    have htaken : s.taken (s.create given).2 = some s.supply.take.1 :=
      taken_of_take (by rw [hcreate, supply_opening])
    have hnot : ∀ other, ¬ (given = some other ∧ other ≠ "") := by
      rintro other ⟨rfl, hne⟩
      exact hne hgiven
    refine ⟨by rw [hcreate]; exact opened_opening s _ _, fun other => ?_⟩
    simp only [Event.Starts, event, after, perform, htaken, Operation.create.injEq, hnot, or_false,
      Option.some.injEq]
    rw [hcreate, eq_comm]
  · obtain ⟨id, rfl⟩ : ∃ id, given = some id := by
      cases given with
      | none => exact absurd rfl hgiven
      | some id => exact ⟨id, rfl⟩
    have hne : id ≠ "" := hgiven
    have hcreate := create_of_given (s := s) hne
    have htaken : s.taken (s.create (some id)).2 = none :=
      taken_of_supply (by rw [hcreate, supply_opening])
    refine ⟨by rw [hcreate]; exact opened_opening s _ _, fun other => ?_⟩
    simp only [Event.Starts, event, after, perform, htaken, Operation.create.injEq,
      Option.some.injEq, reduceCtorEq, false_or]
    rw [hcreate]
    exact ⟨fun h => h.1.symm, fun h => ⟨h.symm, h ▸ hne⟩⟩

theorem starts_iff_of_request {op : Operation} (hop : op.request? = some e) :
    (s.event op).Starts other ↔ (s.event op).generated = some other := by
  have hcreate : ∀ given, op ≠ .create given := by
    rintro given rfl
    exact absurd hop (by simp [Operation.request?])
  simp [Event.Starts, event, hcreate]

theorem starts_or_contains_iff (hop : op.request? = some e)
    (htaken : (s.event op).generated = s.taken (s.resolveOrStart e).2.1) (other : String) :
    (s.event op).Starts other ∨ s.contains other = true ↔
      other = (s.resolveOrStart e).1 ∨ s.contains other = true := by
  rw [starts_iff_of_request hop, htaken]
  rcases resolveOrStart_cases s e with ⟨hresolve, hnone, -⟩ | ⟨-, hsome, -⟩
  · rw [hnone]
    refine ⟨fun h => h.imp_left fun h => absurd h (by simp), ?_⟩
    rintro (rfl | hother)
    · exact Or.inr (contains_of_resolve hresolve)
    · exact Or.inr hother
  · rw [hsome, Option.some.injEq, eq_comm]

/-- What an operation does to a store is what its event says, if what it takes from the supply is
    not live already. -/
theorem effect_after (hs : s.Distinct) (op : Operation)
    (hfresh : ∀ id, (s.event op).generated = some id → s.contains id = false) :
    Effect s (s.after op) (s.event op) := by
  cases op with
  | create given =>
    obtain ⟨hopened, hstarts⟩ := opened_create s given
    exact hopened.effect hs rfl (fun other => by rw [hstarts]) (by simp [Event.Ends, event])
      (by simp [Event.Writes, event])
  | find e start =>
    cases start with
    | false =>
      have htaken : s.taken (s.after (.find e false)) = none := taken_of_supply rfl
      exact effect_self hs (by simp [Event.Starts, event, htaken]) (by simp [Event.Ends, event])
        (by simp [Event.Writes, event])
    | true =>
      exact (opened_resolveOrStart e hfresh).effect hs rfl (starts_or_contains_iff rfl rfl)
        (by simp [Event.Ends, event]) (by simp [Event.Writes, event])
  | get e k =>
    have htaken : s.taken (s.after (.get e k)) = none := taken_of_supply rfl
    exact effect_self hs (by simp [Event.Starts, event, htaken]) (by simp [Event.Ends, event])
      (by simp [Event.Writes, event])
  | set e k v =>
    refine (opened_resolveOrStart e hfresh).effect_write hs rfl (starts_or_contains_iff rfl rfl)
      (by simp [Event.Ends, event]) fun other k' w => ?_
    simp only [Event.Writes, event, perform, Operation.set.injEq, Option.some.injEq]
    constructor
    · rintro ⟨⟨_, -, rfl, rfl⟩, rfl⟩
      exact ⟨rfl, rfl, rfl⟩
    · rintro ⟨rfl, rfl, rfl⟩
      exact ⟨⟨e, rfl, rfl, rfl⟩, rfl⟩
  | destroy id =>
    have htaken : s.taken (s.after (.destroy id)) = none := taken_of_supply rfl
    have hstarts : ∀ other, ¬ (s.event (.destroy id)).Starts other := by
      simp [Event.Starts, event, htaken]
    have hends : ∀ other, (s.event (.destroy id)).Ends other ↔ id = other := by
      simp [Event.Ends, event]
    have hwrites : ∀ other k v, ¬ (s.event (.destroy id)).Writes other k v := by
      simp [Event.Writes, event]
    refine ⟨fun other => ?_, fun other k v => ?_, fun other hne => ?_, hs.destroy id⟩
    · rw [after, perform, contains_destroy hs]
      simp only [hstarts, hends, false_or, ne_eq, eq_comm (a := other)]
      exact and_comm
    · rw [after, perform, valueAt_destroy hs]
      simp only [hends, hwrites, false_or, not_false_eq_true, implies_true, and_true]
      by_cases h : id = other
      · simp [h]
      · simp [h]
    · exact Entries.get?_erase_of_ne _ fun heq => hne (congrArg some heq)

end Effects

/-! ## One operation -/

/-- A store is what its history tells. -/
structure Mirrors (s : SessionStore) (events : List Event) : Prop where
  live : ∀ id, s.contains id = true ↔ Live events id
  held : ∀ id key v, s.valueAt id key = some v ↔ LastSet events id key v
  distinct : s.Distinct

variable {events later : List Event}

theorem mirrors_nil (h : s.sessions = []) : Mirrors s [] where
  live id := by simp [contains, Entries.contains, Entries.get?, h, Live, not_since_nil]
  held id key v := by simp [valueAt, Entries.get?, h, LastSet, not_since_nil]
  distinct := by simp [Distinct, Entries.keys, h]

/-- **One operation more is one event more.** -/
theorem Mirrors.after {x : Event} (h : Mirrors s events) (heffect : Effect s t x) :
    Mirrors t (events ++ [x]) where
  live id := by
    rw [heffect.contains, h.live, Live, Live, since_append_singleton]
  held id key v := by
    rw [heffect.valueAt, h.held, LastSet, LastSet, since_append_singleton]
  distinct := heffect.distinct

/-- A new identifier is none of a live session. -/
theorem Mirrors.over_of_fresh {x : Event} (h : Mirrors s events) {cookieName : String}
    (hfresh : Fresh cookieName (events ++ x :: later)) (hid : x.generated = some id) :
    s.contains id = false := by
  refine Bool.eq_false_iff.2 fun hlive => ?_
  -- a live session was started earlier, so that its identifier occurred there
  obtain ⟨before, y, rest, rfl, hstarts, -⟩ := (h.live id).1 hlive
  have hy : y ∈ before ++ y :: rest := List.mem_append_right _ (List.mem_cons_self ..)
  obtain ⟨hgenerated, hnames⟩ :=
    (List.pairwise_append.1 hfresh.earlier).2.2 y hy x (List.mem_cons_self ..) id hid
  rcases hstarts with hnew | hgiven
  · exact hgenerated hnew
  · exact hnames (Or.inl hgiven)

/-- What an operation leaves alone, and what it says about the session of a request. -/
structure Respects (s : SessionStore) (op : Operation) : Prop where
  /-- Sessions the operation does not belong to are as they were. -/
  others : ∀ id, (s.perform op).session ≠ some id →
    (s.after op).sessions.get? id = s.sessions.get? id
  /-- A cookie that names no live session does not become one. -/
  adopts_none : ∀ e id, op.request? = some e → e.cookie? s.cookieName = some id →
    s.contains id = false → (s.after op).contains id = false
  /-- A request belongs to the session it has, or to one that is generated for it. -/
  session : ∀ e, op.request? = some e →
    (s.perform op).session = (s.resolve e).or (s.event op).generated
  /-- A session that is generated for a request is announced. -/
  announces : ∀ e id, op.request? = some e → (s.event op).generated = some id →
    (s.perform op).session = some id
      ∧ (s.perform op).exchange = some (e.setHeader "Set-Cookie" (s.announcement id))
  /-- Nothing else is announced. -/
  quiet : ∀ e, op.request? = some e → (s.event op).generated = none →
    (s.perform op).exchange = some e

/-- An operation for a request belongs to the session it has, or to one that is generated for it and
    announced. -/
theorem request_cases (hop : op.request? = some e) :
    ((s.event op).generated = none ∧ (s.perform op).session = s.resolve e
        ∧ (s.perform op).exchange = some e)
      ∨ ∃ id, (s.event op).generated = some id ∧ s.resolve e = none
        ∧ (s.perform op).session = some id
        ∧ (s.perform op).exchange = some (e.setHeader "Set-Cookie" (s.announcement id)) := by
  -- setting a value and looking for a session with a start go the same way
  have hlooked : ∀ op' : Operation, (s.event op').generated = s.taken (s.resolveOrStart e).2.1 →
      (s.perform op').session = some (s.resolveOrStart e).1 →
      (s.perform op').exchange = some (s.resolveOrStart e).2.2 →
      ((s.event op').generated = none ∧ (s.perform op').session = s.resolve e
          ∧ (s.perform op').exchange = some e)
        ∨ ∃ id, (s.event op').generated = some id ∧ s.resolve e = none
          ∧ (s.perform op').session = some id
          ∧ (s.perform op').exchange = some (e.setHeader "Set-Cookie" (s.announcement id)) := by
    intro op' htaken hsession hexchange
    rw [htaken, hsession, hexchange]
    rcases resolveOrStart_cases s e with ⟨hresolve, hnone, hsame⟩ | ⟨hresolve, hsome, hset⟩
    · exact Or.inl ⟨hnone, hresolve.symm, by rw [hsame]⟩
    · exact Or.inr ⟨_, hsome, hresolve, rfl, by rw [hset]⟩
  cases op with
  | create given => exact absurd hop (by simp [Operation.request?])
  | destroy id => exact absurd hop (by simp [Operation.request?])
  | get e' k =>
    obtain rfl := Option.some.inj hop
    exact Or.inl ⟨taken_of_supply rfl, rfl, rfl⟩
  | set e' k v =>
    obtain rfl := Option.some.inj hop
    exact hlooked _ rfl rfl rfl
  | find e' start =>
    obtain rfl := Option.some.inj hop
    cases start with
    | false => exact Or.inl ⟨taken_of_supply rfl, rfl, rfl⟩
    | true => exact hlooked _ rfl rfl rfl

theorem respects_of_effect (heffect : Effect s (s.after op) (s.event op))
    (hown : ∀ id, (s.event op).generated = some id → ¬ (s.event op).Names s.cookieName id) :
    Respects s op where
  others := heffect.kept
  adopts_none e id hop hcookie hover := by
    refine Bool.eq_false_iff.2 fun hlive => ?_
    rcases (heffect.contains id).1 hlive with hstarts | ⟨hbefore, -⟩
    · exact hown id ((starts_iff_of_request hop).1 hstarts) (Or.inr (Or.inr ⟨e, hop, hcookie⟩))
    · exact absurd hbefore (by simp [hover])
  session e hop := by
    rcases request_cases hop with ⟨hnone, hsession, -⟩ | ⟨id, hsome, hresolve, hsession, -⟩
    · rw [hsession, hnone, Option.or_none]
    · rw [hsession, hsome, hresolve, Option.none_or]
  announces e id hop hid := by
    rcases request_cases hop with ⟨hnone, -⟩ | ⟨_, hsome, -, hsession, hexchange⟩
    · exact absurd (hid.symm.trans hnone) (by simp)
    · obtain rfl := Option.some.inj (hsome.symm.trans hid)
      exact ⟨hsession, hexchange⟩
  quiet e hop hnone := by
    rcases request_cases hop with ⟨-, -, hexchange⟩ | ⟨_, hsome, -⟩
    · exact hexchange
    · exact absurd (hsome.symm.trans hnone) (by simp)

/-! ## Any operations -/

/-- A store mirrors its history after any operations, each of which respects the other sessions. -/
theorem Mirrors.afterAll {ops : List Operation} (h : Mirrors s events)
    (hfresh : Fresh s.cookieName (events ++ s.history ops)) :
    Mirrors (s.afterAll ops) (events ++ s.history ops)
      ∧ ∀ before op later, ops = before ++ op :: later → Respects (s.afterAll before) op := by
  induction ops generalizing s events with
  | nil =>
    refine ⟨by simpa [history, SessionStore.afterAll] using h, fun before op later hsplit => ?_⟩
    exact absurd hsplit (by simp)
  | cons op rest ih =>
    have heffect : Effect s (s.after op) (s.event op) :=
      effect_after h.distinct op fun id hid => h.over_of_fresh hfresh hid
    have hname : (s.after op).cookieName = s.cookieName := cookieName_after s op
    have hsplit : events ++ s.history (op :: rest)
        = events ++ [s.event op] ++ (s.after op).history rest := by
      rw [List.append_assoc]
      rfl
    rw [hsplit] at hfresh ⊢
    rw [← hname] at hfresh
    obtain ⟨hmirrors, hrespects⟩ := ih (h.after heffect) hfresh
    refine ⟨hmirrors, fun before op' later hops => ?_⟩
    -- the operation that is asked about is this one or one of the rest
    cases before with
    | nil =>
      obtain ⟨rfl, -⟩ := List.cons.inj hops
      refine respects_of_effect heffect fun id hid => ?_
      exact hname ▸ hfresh.own (s.event op) (by simp) id hid
    | cons first before =>
      obtain ⟨rfl, hrest⟩ := List.cons.inj hops
      exact hrespects before op' later hrest

/-- **A store of sessions is the map its history tells**: a session is live if it was started and
    not ended since, a request belongs to the live session its cookie names, and it finds there what
    was set last since the session was started. No operation touches a session it does not belong
    to, makes a session of a cookie, or announces another session than a new one of its request. -/
theorem mirrors_history (hempty : s.sessions = []) {ops : List Operation}
    (hfresh : Fresh s.cookieName (s.history ops)) :
    (∀ id, (s.afterAll ops).contains id = true ↔ Live (s.history ops) id)
      ∧ (∀ e id, (s.afterAll ops).resolve e = some id ↔
        e.cookie? s.cookieName = some id ∧ id ≠ "" ∧ Live (s.history ops) id)
      ∧ (∀ e key v, (s.afterAll ops).get? e key = some v ↔
        ∃ id, (s.afterAll ops).resolve e = some id ∧ LastSet (s.history ops) id key v)
      ∧ ∀ before op later, ops = before ++ op :: later → Respects (s.afterAll before) op := by
  have hwhole : Fresh s.cookieName ([] ++ s.history ops) := hfresh
  obtain ⟨hmirrors, hrespects⟩ := (mirrors_nil hempty).afterAll hwhole
  rw [List.nil_append] at hmirrors
  refine ⟨hmirrors.live, fun e id => ?_, fun e k v => ?_, hrespects⟩
  · rw [resolve_eq_some_iff, cookieName_afterAll, hmirrors.live]
  · rw [get?_eq_some_iff_valueAt]
    simp only [hmirrors.held]

/-- A store without sessions, and identifiers for two. -/
def exampleStore : SessionStore := .empty "session" ⟨fun n => ["first", "second"].getD n "", 0⟩

/-- A browser comes with a cookie it has made up, and then with the one it was given, while another
    session is started and ended. -/
def exampleVisit : List Operation :=
  let stranger : Exchange := { cookies := [("session", "mine")] }
  let guest : Exchange := { cookies := [("session", "first")] }
  [.set stranger "name" (.text "a"), .create (some "other"), .set guest "name" (.text "b"),
    .destroy "other"]

theorem history_exampleVisit : exampleStore.history exampleVisit =
    [⟨.set { cookies := [("session", "mine")] } "name" (.text "a"), some "first", some "first"⟩,
      ⟨.create (some "other"), some "other", none⟩,
      ⟨.set { cookies := [("session", "first")] } "name" (.text "b"), some "first", none⟩,
      ⟨.destroy "other", some "other", none⟩] := by
  rfl

theorem fresh_exampleVisit : Fresh exampleStore.cookieName (exampleStore.history exampleVisit) := by
  rw [history_exampleVisit]
  constructor
  · simp
  · simp [Event.Names, Operation.request?, Exchange.cookie?, exampleStore, SessionStore.empty,
      Entries.get?]

/-- The browser's session is the one it was given, and holds what was set there last. -/
theorem live_exampleVisit :
    exampleStore.sessions = []
      ∧ Fresh exampleStore.cookieName (exampleStore.history exampleVisit)
      ∧ Live (exampleStore.history exampleVisit) "first"
      ∧ ¬ Live (exampleStore.history exampleVisit) "mine"
      ∧ ¬ Live (exampleStore.history exampleVisit) "other"
      ∧ LastSet (exampleStore.history exampleVisit) "first" "name" (.text "b") := by
  obtain ⟨hlive, -, hfound, -⟩ := mirrors_history rfl fresh_exampleVisit
  refine ⟨rfl, fresh_exampleVisit, (hlive _).1 rfl, fun h => ?_, fun h => ?_, ?_⟩
  · exact absurd ((hlive _).2 h) (by decide)
  · exact absurd ((hlive _).2 h) (by decide)
  · obtain ⟨id, hresolve, hset⟩ :=
      (hfound { cookies := [("session", "first")] } "name" (.text "b")).1 rfl
    have hid : some id = some "first" := hresolve.symm.trans rfl
    exact Option.some.inj hid ▸ hset

end RelyingParty.SessionStore
