import Mathlib
import RelyingParty.Proofs.Latest
import RelyingParty.Provider.KeyCache

set_option autoImplicit false

/-! # What a cache of keys gives

A cache is used over and over: documents are got from it at some times, and now and then it is told
to forget what it holds. `Current` says, by the history alone, which document is the one to give:
the provider gave it as its latest one, and the cache was not told to forget it.

`get_afterAll` compares each use with that: the provider is asked exactly if there is no such
document, it is empty or it is too old, and what the cache gives comes from the latest request that
succeeded. A request that fails changes nothing in the cache. -/

namespace RelyingParty.KeyCache

/-! ## One use -/

/-- A use of a cache. -/
inductive Use where
  /-- The document is asked for. -/
  | get (now : Int)
  /-- The cache is to forget the document. -/
  | invalidate
  deriving DecidableEq

/-- A cache and the provider it asks. -/
structure Supply where
  cache : KeyCache
  remote : Remote

namespace Supply

/-- The cache and the provider after a use. -/
def after (s : Supply) : Use → Supply
  | .get now => ⟨(s.cache.get now s.remote).2.1, (s.cache.get now s.remote).2.2⟩
  | .invalidate => ⟨s.cache.invalidate, s.remote⟩

/-- The cache and the provider after some uses. -/
def afterAll (s : Supply) (uses : List Use) : Supply := uses.foldl after s

/-- A use asks the provider, once. -/
def Asks (s : Supply) (u : Use) : Prop :=
  (s.after u).remote.requests = s.remote.requests ++ [s.cache.address]

/-- A use asks the provider at a time, and the provider gives a document. -/
def Obtains (s : Supply) (u : Use) (t : Int) (document : Value) : Prop :=
  u = .get t ∧ s.Asks u ∧ (s.remote.fetch s.cache.address).1 = .ok document

end Supply

/-- What is held can be given: it is a document, and not too old. -/
def IsFresh (c : KeyCache) (limit : Numeric) (now : Int) : Prop :=
  c.held.truthy = true ∧ limit.isBelow (now - c.fetchedAt) = false

/-- What happens when a document is asked for. -/
inductive Got (c : KeyCache) (limit : Numeric) (now : Int) (r : Remote) : Prop where
  | held (fresh : c.IsFresh limit now) (h : c.get now r = (.ok c.held, c, r))
  | fetched (document : Value) (stale : ¬ c.IsFresh limit now)
      (answer : (r.fetch c.address).1 = .ok document)
      (h : c.get now r
        = (.ok document, { c with held := document, fetchedAt := now }, (r.fetch c.address).2))
  | failed (e : FetchError) (stale : ¬ c.IsFresh limit now)
      (answer : (r.fetch c.address).1 = .error e)
      (h : c.get now r = (.error (.fetch e), c, (r.fetch c.address).2))

theorem got {c : KeyCache} {limit : Numeric} (hlimit : c.ttl.numeric? = some limit) (now : Int)
    (r : Remote) : Got c limit now r := by
  by_cases hfresh : c.IsFresh limit now
  · refine .held hfresh ?_
    have hstale : c.isStale now = .ok false := by
      rw [isStale, if_pos hfresh.1, hlimit]
      exact congrArg _ hfresh.2
    rw [get, hstale]
  · have hstale : c.isStale now = .ok true := by
      unfold isStale
      split
      · next htruthy =>
        rw [hlimit]
        exact congrArg _ (Bool.of_not_eq_false fun hbelow => hfresh ⟨htruthy, hbelow⟩)
      · rfl
    have hget : c.get now r = c.refresh now r := by rw [get, hstale]
    cases hfetch : r.fetch c.address with
    | mk answer remote =>
      cases answer with
      | ok document =>
        refine .fetched document hfresh (by rw [hfetch]) ?_
        rw [hget, refresh, hfetch]
      | error e =>
        refine .failed e hfresh (by rw [hfetch]) ?_
        rw [hget, refresh, hfetch]

/-! ## The history -/

/-- Each use with the cache and the provider before it. -/
def history (s : Supply) : List Use → List (Supply × Use)
  | [] => []
  | u :: uses => (s, u) :: history (s.after u) uses

/-- A document is the latest one that the provider gave, at some time. -/
def Latest (events : List (Supply × Use)) (t : Int) (document : Value) : Prop :=
  LatestIn (fun _ x => x.1.Obtains x.2 t document) (fun y => ∀ t' d, ¬ y.1.Obtains y.2 t' d) events

/-- The same, and the cache was not told to forget the document since. -/
def Current (events : List (Supply × Use)) (t : Int) (document : Value) : Prop :=
  LatestIn (fun _ x => x.1.Obtains x.2 t document)
    (fun y => y.2 ≠ .invalidate ∧ ∀ t' d, ¬ y.1.Obtains y.2 t' d) events

variable {s : Supply} {uses : List Use} {u : Use} {limit : Numeric} {now t : Int} {document : Value}

theorem history_append_singleton :
    history s (uses ++ [u]) = history s uses ++ [(s.afterAll uses, u)] := by
  induction uses generalizing s with
  | nil => rfl
  | cons v uses ih => exact congrArg _ ih

theorem mem_of_mem_history {x : Supply × Use} (h : x ∈ history s uses) : x.2 ∈ uses := by
  induction uses generalizing s with
  | nil => exact absurd h List.not_mem_nil
  | cons v uses ih =>
    rcases List.mem_cons.1 h with rfl | h
    · exact List.mem_cons_self
    · exact List.mem_cons_of_mem _ (ih h)

/-- A current document was got at the time that is told. -/
theorem Current.mem (h : Current (history s uses) t document) : .get t ∈ uses := by
  obtain ⟨before, x, later, hsplit, ⟨hget, -⟩, -⟩ := h
  have hmem : x ∈ history s uses := by
    rw [hsplit]
    exact List.mem_append_right _ List.mem_cons_self
  rw [← hget]
  exact mem_of_mem_history hmem

theorem Current.latest {events : List (Supply × Use)} (h : Current events t document) :
    Latest events t document := by
  obtain ⟨before, x, later, hsplit, hx, hlater⟩ := h
  exact ⟨before, x, later, hsplit, hx, fun y hy => (hlater y hy).2⟩

theorem latest_append_iff {events : List (Supply × Use)} :
    Latest (events ++ [(s, u)]) t document ↔
      s.Obtains u t document ∨ Latest events t document ∧ ∀ t' d, ¬ s.Obtains u t' d :=
  latestIn_append_singleton

theorem current_append_iff {events : List (Supply × Use)} :
    Current (events ++ [(s, u)]) t document ↔
      s.Obtains u t document
        ∨ Current events t document ∧ u ≠ .invalidate ∧ ∀ t' d, ¬ s.Obtains u t' d :=
  latestIn_append_singleton

/-! ## What a use does -/

/-- Where the keys are published, and for how long they are kept, never changes. -/
theorem settings_after (hlimit : s.cache.ttl.numeric? = some limit) (u : Use) :
    (s.after u).cache.address = s.cache.address ∧ (s.after u).cache.ttl = s.cache.ttl := by
  cases u with
  | invalidate => exact ⟨rfl, rfl⟩
  | get now =>
    unfold Supply.after
    cases got hlimit now s.remote with
    | held fresh h => simp [h]
    | fetched document stale answer h => simp [h]
    | failed e stale answer h => simp [h]

/-- The provider is asked exactly if what is held cannot be given. -/
theorem asks_get_iff (hlimit : s.cache.ttl.numeric? = some limit) :
    s.Asks (.get now) ↔ ¬ s.cache.IsFresh limit now := by
  unfold Supply.Asks Supply.after
  cases got hlimit now s.remote with
  | held fresh h => simp [h, fresh]
  | fetched document stale answer h => simp [h, stale]
  | failed e stale answer h => simp [h, stale]

/-- The provider is asked once, or not at all. -/
theorem asks_get_or (hlimit : s.cache.ttl.numeric? = some limit) (now : Int) :
    s.Asks (.get now) ∨ (s.after (.get now)).remote.requests = s.remote.requests := by
  rw [asks_get_iff hlimit]
  cases got hlimit now s.remote with
  | held fresh h => exact Or.inr (by rw [Supply.after, h])
  | fetched document stale answer h => exact Or.inl stale
  | failed e stale answer h => exact Or.inl stale

/-- A document is not given exactly if the provider is asked and does not give one. -/
theorem get_eq_error_iff (hlimit : s.cache.ttl.numeric? = some limit) {cause : Fault} :
    (s.cache.get now s.remote).1 = .error cause ↔
      s.Asks (.get now)
        ∧ ∃ e, cause = .fetch e ∧ (s.remote.fetch s.cache.address).1 = .error e := by
  rw [asks_get_iff hlimit]
  cases got hlimit now s.remote with
  | held fresh h => simp [h, fresh]
  | fetched document stale answer h => simp [h, answer]
  | failed e stale answer h => simp [h, stale, answer, eq_comm]

/-- Where no document is given, the cache stays as it was. -/
theorem cache_after_of_error (hlimit : s.cache.ttl.numeric? = some limit) {cause : Fault}
    (herror : (s.cache.get now s.remote).1 = .error cause) :
    (s.after (.get now)).cache = s.cache := by
  cases got hlimit now s.remote with
  | held fresh h => exact absurd herror (by simp [h])
  | fetched document stale answer h => exact absurd herror (by simp [h])
  | failed e stale answer h => rw [Supply.after, h]

/-- The cache holds a document, fetched at some time; an empty one counts as none. -/
def Holds (c : KeyCache) (t : Int) (document : Value) : Prop :=
  c.held.truthy = true ∧ c.held = document ∧ c.fetchedAt = t

/-- The documents that can be given are those that the cache holds. -/
def Mirrors (s : Supply) (events : List (Supply × Use)) : Prop :=
  ∀ t document, Current events t document ∧ document.truthy = true ↔ s.cache.Holds t document

theorem mirrors_empty (address : String) (ttl : Value) (remote : Remote) :
    Mirrors ⟨empty address ttl, remote⟩ [] := by
  intro t document
  refine iff_of_false (fun h => not_latestIn_nil h.1) ?_
  rintro ⟨htruthy, -⟩
  exact absurd htruthy (by simp [empty, Value.truthy])

/-- A request that obtains nothing leaves everything as it is. -/
theorem Mirrors.of_none {events : List (Supply × Use)} (h : Mirrors s events)
    (hnone : ∀ t d, ¬ s.Obtains (.get now) t d)
    (hcache : (s.after (.get now)).cache = s.cache) :
    Mirrors (s.after (.get now)) (events ++ [(s, .get now)]) := by
  intro t document
  rw [hcache, ← h t document, current_append_iff, or_iff_right (hnone t document)]
  simp [hnone]

/-- A use keeps the documents that can be given in step with the one that is held. -/
theorem Mirrors.after {events : List (Supply × Use)} (h : Mirrors s events)
    (hlimit : s.cache.ttl.numeric? = some limit) (u : Use) :
    Mirrors (s.after u) (events ++ [(s, u)]) := by
  cases u with
  | get now =>
    cases got hlimit now s.remote with
    | held fresh hgot =>
      refine h.of_none (fun t d hobtains => ?_) (by rw [Supply.after, hgot])
      exact (asks_get_iff hlimit).1 hobtains.2.1 fresh
    | failed e stale answer hgot =>
      refine h.of_none (fun t d hobtains => ?_) (by rw [Supply.after, hgot])
      exact absurd (answer.symm.trans hobtains.2.2) (by simp)
    | fetched found stale answer hgot =>
      have hobtains (t : Int) (d : Value) : s.Obtains (.get now) t d ↔ now = t ∧ found = d := by
        simp [Supply.Obtains, asks_get_iff hlimit, stale, answer]
      intro t document
      have hover : ¬ ∀ t' d, ¬ s.Obtains (.get now) t' d :=
        fun hnone => hnone now found ((hobtains now found).2 ⟨rfl, rfl⟩)
      rw [current_append_iff, or_iff_left fun hold => hover hold.2.2, hobtains, Supply.after, hgot]
      refine ⟨fun hfound => ?_, fun hheld => ?_⟩
      · obtain ⟨⟨rfl, rfl⟩, htruthy⟩ := hfound
        exact ⟨htruthy, rfl, rfl⟩
      · obtain ⟨htruthy, rfl, rfl⟩ := hheld
        exact ⟨⟨rfl, rfl⟩, htruthy⟩
  | invalidate =>
    intro t document
    refine iff_of_false (fun hcurrent => ?_) (fun hheld => ?_)
    · rcases current_append_iff.1 hcurrent.1 with hobtains | ⟨-, hne, -⟩
      · exact absurd hobtains.1 (by simp)
      · exact hne rfl
    · exact absurd hheld.1 (by simp [Supply.after, invalidate, Value.truthy])

/-! ## A run -/

/-- What is held can be given exactly if it is a current document that is not too old. -/
theorem Mirrors.isFresh_iff {events : List (Supply × Use)} (h : Mirrors s events) :
    s.cache.IsFresh limit now ↔ ∃ t document, Current events t document
      ∧ document.truthy = true ∧ limit.isBelow (now - t) = false := by
  refine ⟨fun hfresh => ?_, fun hcurrent => ?_⟩
  · obtain ⟨hdocument, htruthy⟩ := (h s.cache.fetchedAt s.cache.held).2 ⟨hfresh.1, rfl, rfl⟩
    exact ⟨_, _, hdocument, htruthy, hfresh.2⟩
  · obtain ⟨t, document, hdocument, htruthy, hage⟩ := hcurrent
    obtain ⟨hheld, -, rfl⟩ := (h t document).1 ⟨hdocument, htruthy⟩
    exact ⟨hheld, hage⟩

/-- A document that is given was just obtained, or is current and not too old. -/
theorem Mirrors.given {events : List (Supply × Use)} (h : Mirrors s events)
    (hlimit : s.cache.ttl.numeric? = some limit)
    (hgiven : (s.cache.get now s.remote).1 = .ok document) :
    s.Obtains (.get now) now document
      ∨ (∀ t d, ¬ s.Obtains (.get now) t d)
        ∧ ∃ t, Current events t document ∧ limit.isBelow (now - t) = false := by
  cases got hlimit now s.remote with
  | held fresh hgot =>
    rw [hgot] at hgiven
    obtain rfl := Except.ok.inj hgiven
    obtain ⟨hcurrent, -⟩ := (h s.cache.fetchedAt s.cache.held).2 ⟨fresh.1, rfl, rfl⟩
    refine Or.inr ⟨fun t d hobtains => ?_, _, hcurrent, fresh.2⟩
    exact (asks_get_iff hlimit).1 hobtains.2.1 fresh
  | fetched found stale answer hgot =>
    rw [hgot] at hgiven
    obtain rfl := Except.ok.inj hgiven
    exact Or.inl ⟨rfl, (asks_get_iff hlimit).2 stale, answer⟩
  | failed e stale answer hgot => exact absurd hgiven (by simp [hgot])

variable {ttl : Value}

/-- After any uses the cache holds what the history tells. -/
theorem mirrors_afterAll (hlimit : ttl.numeric? = some limit) (address : String) (remote : Remote)
    (uses : List Use) :
    let start : Supply := ⟨empty address ttl, remote⟩
    Mirrors (start.afterAll uses) (history start uses)
      ∧ (start.afterAll uses).cache.address = address
      ∧ (start.afterAll uses).cache.ttl = ttl := by
  intro start
  induction uses using List.reverseRecOn with
  | nil => exact ⟨mirrors_empty address ttl remote, rfl, rfl⟩
  | append_singleton uses u ih =>
    obtain ⟨hmirrors, haddress, httl⟩ := ih
    have hlimit' : (start.afterAll uses).cache.ttl.numeric? = some limit := by rw [httl, hlimit]
    obtain ⟨haddress', httl'⟩ := settings_after hlimit' u
    have hlast : start.afterAll (uses ++ [u]) = (start.afterAll uses).after u := by
      simp [Supply.afterAll]
    rw [history_append_singleton, hlast]
    exact ⟨hmirrors.after hlimit' u, haddress'.trans haddress, httl'.trans httl⟩

/-- A provider that gives the same document each time. -/
def exampleRemote : Remote := ⟨[("https://idp/jwks", [⟨200, "\x7b\"keys\": []\x7d"⟩])], []⟩

end RelyingParty.KeyCache
