import Mathlib.Data.List.Induction
import RelyingParty.Proofs.Session.History

set_option autoImplicit false

/-! # Values set for one request

An application may set several values for one request. If the request has a live session, all of
them go there. If it has none, each of them starts a session of its own, since a request does not
learn of the session that was started for it; the browser is told of the last one only.

`remembers_iff` says when the next request of the browser finds what was set last under each key: if
the request has a session, or if there is only one key. -/

namespace RelyingParty.SessionStore

/-- A value is the last one set under a key. -/
def LastIn (writes : List (String × Value)) (key : String) (v : Value) : Prop :=
  LatestIn (fun _ w => w = (key, v)) (·.1 ≠ key) writes

/-- The store and the request after values were set for it, one after the other. -/
def setAll (s : SessionStore) (e : Exchange) (writes : List (String × Value)) :
    SessionStore × Exchange :=
  writes.foldl (fun r w => r.1.set r.2 w.1 w.2) (s, e)

/-- The response to a request announces a session. -/
def Announces (s : SessionStore) (e : Exchange) (id : String) : Prop :=
  e.responseHeaders.get? "Set-Cookie" = some (s.announcement id)

/-- A request of the same browser after another one: it has the cookie that was announced or, if
    none was, the one the browser had. -/
structure Follows (s : SessionStore) (e' e : Exchange) : Prop where
  announced : ∀ id, s.Announces e id → e'.cookie? s.cookieName = some id
  kept : (∀ id, ¬ s.Announces e id) → e'.cookie? s.cookieName = e.cookie? s.cookieName

/-- The next request of the browser finds what was set last under each key. -/
def Remembers (s : SessionStore) (e : Exchange) (writes : List (String × Value)) : Prop :=
  ∀ e', s.Follows e' (s.setAll e writes).2 → ∀ key v, LastIn writes key v →
    (s.setAll e writes).1.get? e' key = some v

/-- The identifiers still in the supply are none of a request's: they are not empty, and its cookie
    has none of them. -/
def Unused (s : SessionStore) (e : Exchange) : Prop :=
  ∀ n, s.supply.used ≤ n → s.supply.ids n ≠ "" ∧ e.cookie? s.cookieName ≠ some (s.supply.ids n)

variable {s : SessionStore} {e e' : Exchange} {writes : List (String × Value)} {id key : String}
  {v : Value}

theorem lastIn_append_singleton {w : String × Value} :
    LastIn (writes ++ [w]) key v ↔ w = (key, v) ∨ LastIn writes key v ∧ w.1 ≠ key :=
  latestIn_append_singleton

theorem LastIn.mem (h : LastIn writes key v) : (key, v) ∈ writes := by
  obtain ⟨before, w, later, rfl, rfl, -⟩ := h
  simp

/-- Under each key that is set a value is set last. -/
theorem exists_lastIn {w : String × Value} (h : w ∈ writes) : ∃ v, LastIn writes w.1 v := by
  induction writes using List.reverseRecOn with
  | nil => exact absurd h (by simp)
  | append_singleton rest last ih =>
    by_cases hkey : last.1 = w.1
    · exact ⟨last.2, lastIn_append_singleton.2 (Or.inl (by rw [← hkey]))⟩
    · have hmem : w ∈ rest := by
        rcases List.mem_append.1 h with hrest | hlast
        · exact hrest
        · exact absurd (congrArg Prod.fst (List.mem_singleton.1 hlast).symm) hkey
      obtain ⟨v, hv⟩ := ih hmem
      exact ⟨v, lastIn_append_singleton.2 (Or.inr ⟨hv, hkey⟩)⟩

/-! ## One value -/

theorem announcement_inj {other : String} :
    s.announcement id = s.announcement other ↔ id = other := by
  rw [announcement, announcement, String.append_left_inj, String.append_right_inj]

/-- Only the cookie of a request matters for its session. -/
theorem resolve_congr (h : e'.cookie? s.cookieName = e.cookie? s.cookieName) :
    s.resolve e' = s.resolve e := by
  unfold resolve
  rw [h]

/-- A request finds what its session holds. -/
theorem get?_of_resolve (h : s.resolve e = some id) : s.get? e key = s.valueAt id key := by
  rw [get?, h]
  rfl

/-- A value goes to the session of the request. -/
theorem set_of_resolve (h : s.resolve e = some id) : s.set e key v = (s.write id key v, e) := by
  rw [set, resolveOrStart_of_resolve h]
  rfl

theorem resolve_write (h : s.resolve e = some id) :
    (s.write id key v).resolve e = some id := by
  obtain ⟨hcookie, hne, hlive⟩ := resolve_eq_some_iff.1 h
  exact resolve_eq_some_iff.2 ⟨hcookie, hne, contains_put.2 (Or.inr hlive)⟩

/-- A request without a session has one started for it. -/
theorem resolveOrStart_of_none (h : s.resolve e = none) :
    s.resolveOrStart e
      = (s.supply.take.1, { s.put s.supply.take.1 [] with supply := s.supply.take.2 },
        e.setHeader "Set-Cookie" (s.announcement s.supply.take.1)) := by
  rw [resolveOrStart, h]
  rfl

/-- A value set for a request without a session goes to the one that is started. -/
theorem set_eq_of_none (h : s.resolve e = none) (key : String) (v : Value) :
    s.set e key v
      = ({ s.put s.supply.take.1 [] with supply := s.supply.take.2 }.write s.supply.take.1 key v,
        e.setHeader "Set-Cookie" (s.announcement s.supply.take.1)) := by
  rw [set, resolveOrStart_of_none h]
  rfl

/-- A value set for a request without a session is alone in a new one, which is announced, and the
    request has none still. -/
theorem set_of_none (hunused : s.Unused e) (h : s.resolve e = none) (key : String) (v : Value) :
    (s.set e key v).1.resolve (s.set e key v).2 = none ∧ (s.set e key v).1.Unused (s.set e key v).2
      ∧ (∀ k, (s.set e key v).1.valueAt s.supply.take.1 k = if key = k then some v else none)
      ∧ (s.set e key v).1.contains s.supply.take.1 = true
      ∧ s.Announces (s.set e key v).2 s.supply.take.1 := by
  obtain ⟨hne, hcookie⟩ := hunused s.supply.used (Nat.le_refl _)
  rw [set_eq_of_none h]
  refine ⟨?_, fun n hn => hunused n (Nat.le_of_succ_le hn), fun k => ?_, ?_, ?_⟩
  · -- what was started is not in the cookie of the request
    rw [Option.eq_none_iff_forall_ne_some]
    intro other hother
    obtain ⟨hnamed, hne', hlive⟩ := resolve_eq_some_iff.1 hother
    have hnew : other ≠ s.supply.take.1 := fun heq =>
      hcookie (hnamed.trans (congrArg some heq))
    have hold : s.contains other = true := by
      rcases contains_put.1 hlive with heq | hlive
      · exact absurd heq hnew
      · exact (contains_put.1 hlive).resolve_left hnew
    have hresolve : s.resolve e = some other := resolve_eq_some_iff.2 ⟨hnamed, hne', hold⟩
    rw [h] at hresolve
    exact absurd hresolve (by simp)
  · rw [valueAt_write]
    by_cases hkey : key = k
    · simp [hkey]
    · rw [if_neg fun h => hkey h.2, if_neg hkey]
      exact valueAt_put.trans (if_pos rfl)
  · exact contains_put.2 (Or.inl rfl)
  · exact Entries.get?_insert_self ..

/-! ## Any number of values -/

theorem setAll_append_singleton (w : String × Value) :
    s.setAll e (writes ++ [w]) = (s.setAll e writes).1.set (s.setAll e writes).2 w.1 w.2 := by
  simp [setAll]

theorem cookieName_setAll : (s.setAll e writes).1.cookieName = s.cookieName := by
  induction writes using List.reverseRecOn with
  | nil => rfl
  | append_singleton rest w ih =>
    rw [setAll_append_singleton, ← ih]
    exact cookieName_resolveOrStart

/-- The session of a request holds what was set last for it, and no other one is announced. -/
theorem setAll_of_resolve (h : s.resolve e = some id) (writes : List (String × Value)) :
    (s.setAll e writes).2 = e ∧ (s.setAll e writes).1.resolve e = some id
      ∧ ∀ key v, LastIn writes key v → (s.setAll e writes).1.valueAt id key = some v := by
  induction writes using List.reverseRecOn with
  | nil => exact ⟨rfl, h, fun key v hlast => absurd hlast not_latestIn_nil⟩
  | append_singleton rest w ih =>
    obtain ⟨hsame, hresolve, hheld⟩ := ih
    rw [setAll_append_singleton, hsame, set_of_resolve hresolve]
    refine ⟨rfl, resolve_write hresolve, fun key v hlast => ?_⟩
    rw [valueAt_write]
    rcases lastIn_append_singleton.1 hlast with rfl | ⟨hrest, hkey⟩
    · exact if_pos ⟨rfl, rfl⟩
    · rw [if_neg fun h => hkey h.2]
      exact hheld key v hrest

theorem unused_setAll (hunused : s.Unused e) (h : s.resolve e = none)
    (writes : List (String × Value)) :
    (s.setAll e writes).1.resolve (s.setAll e writes).2 = none
      ∧ (s.setAll e writes).1.Unused (s.setAll e writes).2 := by
  induction writes using List.reverseRecOn with
  | nil => exact ⟨h, hunused⟩
  | append_singleton rest w ih =>
    obtain ⟨hnone, hnew⟩ := ih
    rw [setAll_append_singleton]
    obtain ⟨hnone', hnew', -⟩ := set_of_none hnew hnone w.1 w.2
    exact ⟨hnone', hnew'⟩

/-- Without a session of its own, the browser is told of a session in which only the last value is
    found. -/
theorem exists_announced (hunused : s.Unused e) (h : s.resolve e = none)
    (writes : List (String × Value)) (w : String × Value) :
    ∃ id, s.Announces (s.setAll e (writes ++ [w])).2 id
      ∧ ∀ e', e'.cookie? s.cookieName = some id → ∀ key,
        (s.setAll e (writes ++ [w])).1.get? e' key = if w.1 = key then some w.2 else none := by
  obtain ⟨hnone, hnew⟩ := unused_setAll hunused h writes
  obtain ⟨-, -, hheld, hlive, hannounced⟩ := set_of_none hnew hnone w.1 w.2
  have hname : (s.setAll e (writes ++ [w])).1.cookieName = s.cookieName := cookieName_setAll
  rw [setAll_append_singleton] at hname ⊢
  refine ⟨(s.setAll e writes).1.supply.take.1, ?_, fun e' hcookie key => ?_⟩
  · rw [Announces, announcement, cookieName_setAll] at hannounced
    exact hannounced
  · have hresolve : ((s.setAll e writes).1.set (s.setAll e writes).2 w.1 w.2).1.resolve e'
        = some (s.setAll e writes).1.supply.take.1 :=
      resolve_eq_some_iff.2 ⟨hname ▸ hcookie, (hnew _ (Nat.le_refl _)).1, hlive⟩
    rw [← hheld key]
    exact get?_of_resolve hresolve

/-! ## The next request -/

theorem remembers_of_resolve (h : s.resolve e = some id)
    (hearlier : ∀ other, s.Announces e other → other = id) : s.Remembers e writes := by
  obtain ⟨hsame, hresolve, hheld⟩ := setAll_of_resolve h writes
  intro e' hfollows key v hlast
  rw [hsame] at hfollows
  have hcookie : e'.cookie? s.cookieName = e.cookie? s.cookieName := by
    by_cases htold : ∃ other, s.Announces e other
    · obtain ⟨other, hother⟩ := htold
      rw [hfollows.announced other hother, hearlier other hother,
        (resolve_eq_some_iff.1 h).1]
    · exact hfollows.kept fun other hother => htold ⟨other, hother⟩
  have hnext : (s.setAll e writes).1.resolve e' = some id := by
    rw [← hresolve]
    exact resolve_congr (by rw [cookieName_setAll, hcookie])
  rw [get?_of_resolve hnext, hheld key v hlast]

/-- The request of a browser that was told of a session and has nothing else. -/
def nextRequest (s : SessionStore) (id : String) : Exchange := { cookies := [(s.cookieName, id)] }

theorem cookie?_nextRequest : (s.nextRequest id).cookie? s.cookieName = some id := by
  simp [nextRequest, Exchange.cookie?, Entries.get?]

theorem follows_nextRequest (h : s.Announces e id) : s.Follows (s.nextRequest id) e where
  announced other hother := by
    have hheader : some (s.announcement id) = some (s.announcement other) := h.symm.trans hother
    rw [cookie?_nextRequest, announcement_inj.1 (Option.some.inj hheader)]
  kept hnone := absurd h (hnone id)

/-- **The next request of a browser finds what was set last under each key** exactly if the request
    that set it has a session, or if there is only one key. -/
theorem remembers_iff (hunused : s.Unused e)
    (hearlier : ∀ id other, s.Announces e id → s.resolve e = some other → id = other) :
    s.Remembers e writes ↔
      (∃ id, s.resolve e = some id) ∨ ∀ w ∈ writes, ∀ w' ∈ writes, w.1 = w'.1 := by
  cases hresolve : s.resolve e with
  | some id =>
    have hremembers : s.Remembers e writes :=
      remembers_of_resolve hresolve fun other hother => hearlier other id hother hresolve
    exact iff_of_true hremembers (Or.inl ⟨id, rfl⟩)
  | none =>
    rw [or_iff_right (by simp)]
    rcases List.eq_nil_or_concat writes with rfl | ⟨rest, w, rfl⟩
    · refine iff_of_true (fun e' hfollows key v hlast => ?_) (by simp)
      exact absurd hlast not_latestIn_nil
    rw [List.concat_eq_append]
    obtain ⟨id, hannounced, hfound⟩ := exists_announced hunused hresolve rest w
    constructor
    · intro hremembers
      have hlast : ∀ w' ∈ rest ++ [w], w.1 = w'.1 := by
        intro w' hw'
        obtain ⟨v, hv⟩ := exists_lastIn hw'
        have hget := hremembers _ (follows_nextRequest hannounced) w'.1 v hv
        rw [hfound _ cookie?_nextRequest] at hget
        by_contra hkey
        exact absurd hget (by simp [hkey])
      exact fun w₁ h₁ w₂ h₂ => (hlast w₁ h₁).symm.trans (hlast w₂ h₂)
    · intro hkeys e' hfollows key v hlast
      have hw : w = (key, v) := by
        refine (lastIn_append_singleton.1 hlast).resolve_right fun h => h.2 ?_
        exact hkeys w (by simp) (key, v) (List.mem_append_left _ h.1.mem)
      rw [hfound e' (hfollows.announced id hannounced), hw]
      exact if_pos rfl

/-! ## A login -/

/-- A login sets what has to come back from the provider. -/
def exampleLogin : List (String × Value) := [("state", .text "a"), ("nonce", .text "b")]

/-- A store with one session, and identifiers for more. -/
def visitedStore : SessionStore where
  cookieName := "session"
  sessions := [("mine", [("state", .text "old")])]
  supply := ⟨fun n => ["first", "second"].getD n "other", 0⟩

/-- A request that has a session finds both values next time. -/
theorem remembers_exampleLogin :
    visitedStore.Unused { cookies := [("session", "mine")] }
      ∧ (∀ id other, visitedStore.Announces { cookies := [("session", "mine")] } id →
        visitedStore.resolve { cookies := [("session", "mine")] } = some other → id = other)
      ∧ visitedStore.Remembers { cookies := [("session", "mine")] } exampleLogin := by
  have hunused : visitedStore.Unused { cookies := [("session", "mine")] } := by
    intro n _
    rcases n with _ | _ | n
    · exact ⟨by decide, by decide⟩
    · exact ⟨by decide, by decide⟩
    · show "other" ≠ "" ∧ some "mine" ≠ some "other"
      decide
  have hearlier : ∀ id other, visitedStore.Announces { cookies := [("session", "mine")] } id →
      visitedStore.resolve { cookies := [("session", "mine")] } = some other → id = other := by
    intro id other hannounced
    exact absurd hannounced (by simp [Announces, Entries.get?])
  exact ⟨hunused, hearlier, (remembers_iff hunused hearlier).2 (Or.inl ⟨"mine", rfl⟩)⟩

/-- A request that has none does not. -/
theorem not_remembers_exampleLogin : ¬ visitedStore.Remembers {} exampleLogin := by
  intro hremembers
  have hannounced : visitedStore.Announces (visitedStore.setAll {} exampleLogin).2 "second" := rfl
  have hfound := hremembers _ (follows_nextRequest hannounced) "state" (.text "a")
    ⟨[], _, [("nonce", .text "b")], rfl, rfl, by simp⟩
  have hnone : (visitedStore.setAll {} exampleLogin).1.get? (visitedStore.nextRequest "second")
      "state" = none := rfl
  exact absurd (hfound.symm.trans hnone) (by simp)

end RelyingParty.SessionStore
