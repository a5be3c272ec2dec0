import Mathlib.Data.List.Induction
import RelyingParty.Proofs.Latest
import RelyingParty.Proofs.Logout.Operations

set_option autoImplicit false

/-! # What has become of recorded sessions

Applications record sessions, and browsers and the provider log out, in any order. An index in
memory that starts without entries has for each session of the provider the one that was recorded
last, if that was not named in a logout since.

No logout ends a session that is not its own: the browser's if it came through one, and otherwise
the one that the index has for the name at that moment. `get?_actAll_and_logsOut` says both. -/

namespace RelyingParty.Logout

/-- The name that an action gives a session of the provider. -/
def Action.named? : Action → Option String
  | .record _ sid => SessionIndex.named? (.text sid)
  | .front _ v => SessionIndex.named? v
  | .back v => SessionIndex.named? v

namespace Sessions

/-- The sessions after some actions. -/
def actAll (s : Sessions) (actions : List Action) : Sessions :=
  actions.foldl (fun s a => (s.act a).sessions) s

/-- An action records a session for a session of the provider. Without a name nothing is recorded.
    -/
def Files (s : Sessions) (a : Action) (sid id : String) : Prop :=
  ∃ e, a = .record e sid ∧ sid ≠ "" ∧ (s.store.resolveOrStart e).1 = id

/-- A session was recorded for a session of the provider, which no action named since. -/
def Recorded (s : Sessions) (actions : List Action) (sid id : String) : Prop :=
  LatestIn (fun before a => (s.actAll before).Files a sid id) (·.named? ≠ some sid) actions

/-- An action is a logout of a session: it comes from its browser, or from the provider under a name
    for which the index has the session. -/
inductive LogsOut (s : Sessions) (place : Nat) (id : String) : Action → Prop where
  | front {e : Exchange} (v : Value) (mine : s.store.IsBrowserOf e id) :
    LogsOut s place id (.front e v)
  | back {sid : String} (found : (s.index place).get? sid = some id) :
    LogsOut s place id (.back (.text sid))

variable {s : Sessions} {place : Nat} {a : Action} {actions : List Action} {sid id : String}

/-! ## One action -/

/-- What an action needs of an index: it takes every entry, and has another one for every name. -/
structure Orderly (s : Sessions) (place : Nat) : Prop where
  indexed : s.Indexed place
  apart : (s.index place).TellsApart .univ

theorem Orderly.updated (h : s.Orderly place) {i : SessionIndex} {t : SessionStore}
    (hi : i.TellsApart .univ) (ht : t.Distinct) : (s.updated place i t).Orderly place := by
  refine ⟨h.indexed.updated i ht, ?_⟩
  rw [index_updated h.indexed]
  exact hi

theorem Orderly.act (h : s.Orderly place) (a : Action) : (s.act a).sessions.Orderly place := by
  have hhandler := h.indexed.handler
  have hdistinct := h.indexed.distinct
  cases a with
  | record e name =>
    by_cases hempty : name = ""
    · rw [hempty, act_record_empty hhandler, updated_index]
      exact h
    · obtain ⟨i, hput, hapart, -⟩ := h.apart.put (Set.mem_univ name) (s.store.resolveOrStart e).1
      rw [act_record_of_ok hhandler hempty hput]
      exact h.updated hapart (hdistinct.resolveOrStart e)
  | front e v =>
    obtain ⟨found, -, hafter⟩ := sessions_act_front hhandler e v
    rw [hafter]
    exact h.updated (h.apart.forgotten v) (hdistinct.ended found)
  | back v =>
    obtain ⟨found, -, hafter⟩ := sessions_act_back hhandler v
    rw [hafter]
    exact h.updated (h.apart.forgotten v) (hdistinct.ended found)

/-- What an index has for a name after an action was just recorded, or was there and not named. -/
theorem get?_act (h : s.Orderly place) :
    ((s.act a).sessions.index place).get? sid = some id ↔
      s.Files a sid id ∨ (s.index place).get? sid = some id ∧ a.named? ≠ some sid := by
  have hlogout : ∀ v, ((s.index place).forgotten v).get? sid = some id ↔
      (s.index place).get? sid = some id ∧ SessionIndex.named? v ≠ some sid := by
    intro v
    rw [h.apart.get?_forgotten (fun _ _ => Set.mem_univ _) (Set.mem_univ sid)]
    split
    · next hnamed => simp [hnamed]
    · next hother => simp [hother]
  cases a with
  | record e name =>
    by_cases hempty : name = ""
    · have hnothing : ¬ s.Files (.record e "") sid id := by
        rintro ⟨e', hrecord, hne, -⟩
        exact hne (Action.record.inj hrecord).2.symm
      rw [hempty, act_record_empty h.indexed.handler, updated_index, or_iff_right hnothing]
      simp [Action.named?, SessionIndex.named?]
    · obtain ⟨i, hput, -, hget⟩ := h.apart.put (Set.mem_univ name) (s.store.resolveOrStart e).1
      rw [act_record_of_ok h.indexed.handler hempty hput, index_updated h.indexed,
        hget sid (Set.mem_univ sid)]
      by_cases hname : name = sid
      · subst hname
        simp [Files, Action.named?, SessionIndex.named?, hempty]
      · simp [Files, Action.named?, SessionIndex.named?, hempty, hname]
  | front e v =>
    obtain ⟨found, -, hafter⟩ := sessions_act_front h.indexed.handler e v
    rw [hafter, index_updated h.indexed, hlogout]
    simp [Files, Action.named?]
  | back v =>
    obtain ⟨found, -, hafter⟩ := sessions_act_back h.indexed.handler v
    rw [hafter, index_updated h.indexed, hlogout]
    simp [Files, Action.named?]

/-- Only a logout of a session ends it. -/
theorem logsOut_of_over (h : s.Orderly place) (hlive : s.store.contains id = true)
    (hover : (s.act a).sessions.store.contains id = false) : s.LogsOut place id a := by
  cases a with
  | record e name =>
    by_cases hempty : name = ""
    · rw [hempty, act_record_empty h.indexed.handler] at hover
      exact absurd (hlive.symm.trans hover) (by decide)
    · obtain ⟨i, hput, -⟩ := h.apart.put (Set.mem_univ name) (s.store.resolveOrStart e).1
      rw [act_record_of_ok h.indexed.handler hempty hput] at hover
      have hstill : (s.store.resolveOrStart e).2.1.contains id = true :=
        SessionStore.contains_resolveOrStart.2 (Or.inr hlive)
      exact absurd (hstill.symm.trans hover) (by decide)
  | front e v =>
    obtain ⟨found, hfound, hafter⟩ := sessions_act_front h.indexed.handler e v
    rw [hafter] at hover
    obtain rfl := SessionStore.eq_of_over_ended h.indexed.distinct hlive hover
    have hmine : s.store.resolve e = some id := (hfound.resolve_left (by simp)).symm
    obtain ⟨hcookie, hne, -⟩ := SessionStore.resolve_eq_some_iff.1 hmine
    exact .front v ⟨hcookie, hne⟩
  | back v =>
    obtain ⟨found, hfound, hafter⟩ := sessions_act_back h.indexed.handler v
    rw [hafter] at hover
    obtain rfl := SessionStore.eq_of_over_ended h.indexed.distinct hlive hover
    have hfiled : (s.index place).found? v = some id := (hfound.resolve_left (by simp)).symm
    obtain ⟨name, hname, hget⟩ := Option.bind_eq_some_iff.1 hfiled
    obtain ⟨rfl, -⟩ := SessionIndex.named?_eq_some_iff.1 hname
    exact .back hget

/-! ## Any actions -/

theorem actAll_append_singleton (s : Sessions) (actions : List Action) (a : Action) :
    s.actAll (actions ++ [a]) = ((s.actAll actions).act a).sessions := by
  simp [actAll]

theorem Orderly.actAll (h : s.Orderly place) (actions : List Action) :
    (s.actAll actions).Orderly place := by
  induction actions using List.reverseRecOn with
  | nil => exact h
  | append_singleton rest a ih =>
    rw [actAll_append_singleton]
    exact ih.act a

theorem recorded_append_singleton :
    s.Recorded (actions ++ [a]) sid id ↔
      (s.actAll actions).Files a sid id ∨ s.Recorded actions sid id ∧ a.named? ≠ some sid :=
  latestIn_append_singleton

theorem get?_actAll (h : s.Orderly place) (hempty : s.index place = .empty) :
    ((s.actAll actions).index place).get? sid = some id ↔ s.Recorded actions sid id := by
  induction actions using List.reverseRecOn generalizing id with
  | nil =>
    have hnone : (s.index place).get? sid = none := by
      rw [hempty]
      rfl
    exact iff_of_false (by simp [Sessions.actAll, hnone]) not_latestIn_nil
  | append_singleton rest a ih =>
    rw [actAll_append_singleton, get?_act (h.actAll rest), ih, recorded_append_singleton]

/-- **An index has what was recorded last and was not named since, and each session that ends is
    logged out by its browser or under a name that the index has for it**, whatever is recorded and
    logged out with an index in memory that starts without entries. -/
theorem get?_actAll_and_logsOut (h : s.Indexed place) (hempty : s.index place = .empty)
    (actions : List Action) :
    (∀ sid id, ((s.actAll actions).index place).get? sid = some id ↔ s.Recorded actions sid id)
      ∧ ∀ a id, (s.actAll actions).store.contains id = true →
        (s.actAll (actions ++ [a])).store.contains id = false →
          (s.actAll actions).LogsOut place id a := by
  have horderly : s.Orderly place := by
    refine ⟨h, ?_⟩
    rw [hempty]
    exact SessionIndex.tellsApart_memory List.nodup_nil
  refine ⟨fun sid id => get?_actAll horderly hempty, fun a id hlive hover => ?_⟩
  rw [actAll_append_singleton] at hover
  exact logsOut_of_over (horderly.actAll actions) hlive hover

/-- A site with a session, and an index without entries. -/
def visited : Sessions where
  store := { cookieName := "session", sessions := [("a", [])], supply := ⟨toString, 0⟩ }
  indexes := [.empty]
  handler := .indexed 0

/-- The browser of the session. -/
def visitor : Exchange := { cookies := [("session", "a")] }

/-- Its session is recorded, and then another one, which is started. -/
def exampleRecords : List Action := [.record visitor "p", .record {} "q"]

/-- A browser that names another session than its own ends its own, which is found still. -/
theorem logsOut_visitor :
    visited.Indexed 0 ∧ visited.index 0 = .empty
      ∧ visited.Recorded (exampleRecords ++ [.front visitor (.text "q")]) "p" "a"
      ∧ ¬ visited.Recorded (exampleRecords ++ [.front visitor (.text "q")]) "q" "0"
      ∧ (visited.actAll exampleRecords).LogsOut 0 "a" (.front visitor (.text "q")) := by
  have hindexed : visited.Indexed 0 :=
    ⟨rfl, by decide, by simp [SessionStore.Distinct, Entries.keys, visited]⟩
  obtain ⟨hfound, -⟩ := get?_actAll_and_logsOut hindexed rfl
    (exampleRecords ++ [.front visitor (.text "q")])
  obtain ⟨-, hends⟩ := get?_actAll_and_logsOut hindexed rfl exampleRecords
  refine ⟨hindexed, rfl, (hfound "p" "a").1 (by decide), fun hrecorded => ?_,
    hends _ "a" (by decide) (by decide)⟩
  exact absurd ((hfound "q" "0").2 hrecorded) (by decide)

end Sessions

end RelyingParty.Logout
