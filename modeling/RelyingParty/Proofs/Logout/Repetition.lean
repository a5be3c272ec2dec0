import RelyingParty.Proofs.Logout.Sessions
import RelyingParty.Proofs.Session.Lookup

set_option autoImplicit false

/-! # Logouts that are repeated or change places

The provider may send its logouts in any order, and more than once. After all of them the sessions
are as if those that are named had ended at once, `endedAll`, which is a matter of what is named and
not of the order. Several names may stand for one session: then the session is over after the first
logout and the later ones find nothing but their entries. A browser that logs out again changes
nothing either. Both are said in `logouts_any_order`. -/

namespace RelyingParty.Logout.Sessions

open SessionIndex (named? named?_eq_some_iff)

variable {s : Sessions} {place : Nat} {entries : Entries String String} {names names' : List String}
  {sids sids' : List Value} {sid id : String}

/-! ## Many logouts at once -/

/-- Carry out some back-channel logouts, one after the other. -/
def logoutBackAll (s : Sessions) (sids : List Value) : Except Fault Sessions :=
  sids.foldlM logoutBack s

/-- A session of the provider is named by one of some values. -/
def IsNamed (sids : List Value) (sid : String) : Prop := .text sid ∈ sids ∧ sid ≠ ""

/-- The names among some values. -/
def namesOf (sids : List Value) : List String := sids.filterMap named?

theorem mem_namesOf_iff : sid ∈ namesOf sids ↔ IsNamed sids sid := by
  rw [namesOf, List.mem_filterMap]
  simp only [named?_eq_some_iff]
  constructor
  · rintro ⟨v, hv, rfl, hne⟩
    exact ⟨hv, hne⟩
  · intro h
    exact ⟨.text sid, h.1, rfl, h.2⟩

/-- Whether a session is filed under one of some names. -/
def isFiled (entries : Entries String String) (names : List String) (id : String) : Bool :=
  names.any fun sid => entries.get? sid == some id

theorem isFiled_eq_true_iff :
    isFiled entries names id = true ↔ ∃ sid ∈ names, entries.get? sid = some id := by
  simp [isFiled]

/-- A store without the sessions that are filed under some names. -/
def remaining (t : SessionStore) (entries : Entries String String) (names : List String) :
    SessionStore :=
  { t with sessions := t.sessions.without (isFiled entries names) }

/-- The sessions after the end of some sessions of the provider: their entries are gone from the
    index, and so are the sessions that were filed under them. -/
def endedAll (s : Sessions) (place : Nat) (entries : Entries String String) (names : List String) :
    Sessions :=
  s.updated place (.memory (entries.without names.contains)) (remaining s.store entries names)

/-- What is named is all that matters. -/
theorem remaining_congr (h : ∀ sid, sid ∈ names ↔ sid ∈ names') (t : SessionStore) :
    remaining t entries names = remaining t entries names' := by
  have hfiled : isFiled entries names = isFiled entries names' := by
    funext id
    rw [Bool.eq_iff_iff, isFiled_eq_true_iff, isFiled_eq_true_iff]
    simp only [h]
  rw [remaining, remaining, hfiled]

theorem endedAll_congr (h : ∀ sid, sid ∈ names ↔ sid ∈ names') :
    s.endedAll place entries names = s.endedAll place entries names' := by
  have hcontains : names.contains = names'.contains := by
    funext sid
    rw [Bool.eq_iff_iff, List.contains_iff_mem, List.contains_iff_mem, h]
  rw [endedAll, endedAll, hcontains, remaining_congr h]

theorem endedAll_nil (hindex : s.index place = .memory entries) :
    s.endedAll place entries [] = s := by
  have hentries : entries.without [].contains = entries := List.filter_eq_self.2 fun _ _ => rfl
  have hstore : remaining s.store entries [] = s.store := by
    have hstay : s.store.sessions.without (isFiled entries []) = s.store.sessions :=
      List.filter_eq_self.2 fun _ _ => rfl
    rw [remaining, hstay]
  rw [endedAll, hentries, hstore, ← hindex, updated, index, write_read]

/-! ## One after the other -/

/-- The end of a session of the provider is an update if it is named. -/
theorem ended_eq (s : Sessions) (place : Nat) (entries : Entries String String) (v : Value) :
    s.ended place entries v = (named? v).elim s fun sid =>
      s.updated place (.memory (entries.erase sid))
        (((entries.get? sid).map s.store.destroy).getD s.store) := by
  cases v with
  | text sid =>
    by_cases hempty : sid = ""
    · rw [ended, if_pos hempty, named?, if_pos hempty, Option.elim_none]
    · rw [ended, if_neg hempty, named?, if_neg hempty, Option.elim_some]
      cases entries.get? sid with
      | none => rfl
      | some id => rfl
  | _ => rfl

/-- One more name takes one more session out of a store. If it was given before, its entry is gone,
    and nothing is found under it. -/
theorem remaining_append {t : SessionStore} (ht : t.Distinct) (sid : String) :
    (((entries.without names.contains).get? sid).map (remaining t entries names).destroy).getD
        (remaining t entries names)
      = remaining t entries (names ++ [sid]) := by
  rw [Entries.get?_without]
  by_cases hgiven : sid ∈ names
  · have hsame : ∀ other, other ∈ names ++ [sid] ↔ other ∈ names := by
      intro other
      rw [List.mem_append, List.mem_singleton]
      exact or_iff_left_of_imp fun h => h ▸ hgiven
    rw [if_pos (List.contains_iff_mem.2 hgiven), remaining_congr hsame]
    rfl
  · have hnew : ¬ names.contains sid = true := fun h => hgiven (List.contains_iff_mem.1 h)
    have hfiled : isFiled entries (names ++ [sid])
        = fun id => isFiled entries names id || entries.get? sid == some id := by
      funext id
      simp [isFiled, List.any_append]
    have hafter : remaining t entries (names ++ [sid]) = { t with
        sessions := (remaining t entries names).sessions.without (entries.get? sid == some ·) } := by
      rw [remaining, hfiled, ← Entries.without_without]
      rfl
    rw [if_neg hnew, hafter]
    cases entries.get? sid with
    | none =>
      have hstay : (remaining t entries names).sessions.without ((none : Option String) == some ·)
          = (remaining t entries names).sessions := List.filter_eq_self.2 fun _ _ => rfl
      rw [hstay]
      rfl
    | some id =>
      have herase : (remaining t entries names).sessions.erase id
          = (remaining t entries names).sessions.without (· == id) :=
        Entries.erase_eq_without (Entries.nodup_keys_without ht _) id
      have hcomm : (fun other => some id == some other) = (· == id) := by
        funext other
        rw [Option.some_beq_some, Bool.beq_comm]
      rw [hcomm, ← herase]
      rfl

/-- One logout more ends what was filed under its name at the start. -/
theorem ended_endedAll (h : s.Indexed place) (hentries : entries.keys.Nodup) (v : Value) :
    (s.endedAll place entries names).ended place (entries.without names.contains) v
      = s.endedAll place entries (names ++ (named? v).toList) := by
  rw [ended_eq]
  cases named? v with
  | none => rw [Option.elim_none, Option.toList_none, List.append_nil]
  | some sid =>
    have herase : (entries.without names.contains).erase sid
        = entries.without (names ++ [sid]).contains := by
      rw [Entries.erase_eq_without (Entries.nodup_keys_without hentries _),
        Entries.without_without]
      congr 1
      funext other
      rw [List.contains_append, List.contains_cons, List.contains_nil, Bool.or_false]
    rw [Option.elim_some, Option.toList_some, herase]
    show (s.updated place _ _).updated place _ _ = _
    rw [updated_updated]
    exact congrArg _ (remaining_append h.distinct sid)

theorem logoutBack_endedAll (h : s.Indexed place) (hentries : entries.keys.Nodup) {v : Value}
    (hv : v = .null ∨ v.isText = true) :
    (s.endedAll place entries names).logoutBack v
      = .ok (s.endedAll place entries (names ++ (named? v).toList)) := by
  have hhandler : (s.endedAll place entries names).handler = .indexed place := h.handler
  have hindex : (s.endedAll place entries names).indexes.read place
      = .memory (entries.without names.contains) := index_updated h _ _
  rw [logoutBack_eq hhandler hindex hv, ended_endedAll h hentries]

theorem namesOf_cons (v : Value) (sids : List Value) :
    namesOf (v :: sids) = (named? v).toList ++ namesOf sids := by
  rw [namesOf, List.filterMap_cons]
  cases named? v with
  | none => rfl
  | some sid => rfl

/-- All logouts end what was filed under their names at the start. -/
theorem logoutBackAll_endedAll (h : s.Indexed place) (hentries : entries.keys.Nodup)
    (hsids : ∀ v ∈ sids, v = .null ∨ v.isText = true) :
    (s.endedAll place entries names).logoutBackAll sids
      = .ok (s.endedAll place entries (names ++ namesOf sids)) := by
  induction sids generalizing names with
  | nil =>
    rw [namesOf, List.filterMap_nil, List.append_nil]
    rfl
  | cons v rest ih =>
    obtain ⟨hv, hrest⟩ := List.forall_mem_cons.1 hsids
    rw [logoutBackAll, List.foldlM_cons, logoutBack_endedAll h hentries hv, ok_bind, namesOf_cons,
      ← List.append_assoc]
    exact ih hrest

theorem logoutBackAll_eq (h : s.Indexed place) (hindex : s.index place = .memory entries)
    (hentries : entries.keys.Nodup) (hsids : ∀ v ∈ sids, v = .null ∨ v.isText = true) :
    s.logoutBackAll sids = .ok (s.endedAll place entries (namesOf sids)) := by
  have hall : (s.endedAll place entries []).logoutBackAll sids
      = .ok (s.endedAll place entries ([] ++ namesOf sids)) :=
    logoutBackAll_endedAll h hentries hsids
  rwa [endedAll_nil hindex, List.nil_append] at hall

/-! ## What is left -/

theorem get?_index_endedAll (h : s.Indexed place) :
    ((s.endedAll place entries (namesOf sids)).index place).get? sid = some id ↔
      entries.get? sid = some id ∧ ¬ IsNamed sids sid := by
  have hindex : (s.endedAll place entries (namesOf sids)).index place
      = .memory (entries.without (namesOf sids).contains) := index_updated h _ _
  rw [hindex, SessionIndex.get?, Entries.get?_without, ← mem_namesOf_iff, ← List.contains_iff_mem]
  cases (namesOf sids).contains sid <;> simp

theorem get?_store_endedAll {data : SessionData} :
    (s.endedAll place entries (namesOf sids)).store.sessions.get? id = some data ↔
      s.store.sessions.get? id = some data
        ∧ ¬ ∃ sid, IsNamed sids sid ∧ entries.get? sid = some id := by
  have hfiled : isFiled entries (namesOf sids) id = true ↔
      ∃ sid, IsNamed sids sid ∧ entries.get? sid = some id := by
    simp only [isFiled_eq_true_iff, mem_namesOf_iff]
  have hstore : (s.endedAll place entries (namesOf sids)).store.sessions
      = s.store.sessions.without (isFiled entries (namesOf sids)) := rfl
  rw [hstore, Entries.get?_without, ← hfiled]
  cases isFiled entries (namesOf sids) id <;> simp

/-! ## The result -/

/-- A browser that logs out again changes nothing, and comes to the same fault if there is one. -/
theorem logoutFront_logoutFront (h : s.Indexed place) (hdistinct : (s.index place).Distinct)
    (e : Exchange) (v : Value) :
    (s.logoutFront e v >>= fun s' => s'.logoutFront e v) = s.logoutFront e v := by
  rw [logoutFront_eq_map h.handler]
  cases hfront : (s.index place).logoutFront s.store e v with
  | error cause => rfl
  | ok r =>
    obtain ⟨i, t⟩ := r
    show (s.updated place i t).logoutFront e v = .ok (s.updated place i t)
    have hhandler : (s.updated place i t).handler = .indexed place := h.handler
    rw [logoutFront_eq_map hhandler, index_updated h]
    show (i.logoutFront t e v).map _ = _
    rw [hdistinct.logoutFront_logoutFront h.distinct hfront, Except.map, updated_updated]

/-- **Back-channel logouts may come in any order and again, and front-channel logouts again.** Those
    from the provider leave the same sessions if they name the same ones: the entries of those that
    are named are gone from the index, and the sessions that were filed under them at the start are
    over, and nothing else is. -/
theorem logouts_any_order (h : s.Indexed place) (hdistinct : (s.index place).Distinct) :
    (∀ entries, s.index place = .memory entries → ∀ sids sids' : List Value,
      (∀ v ∈ sids, v = .null ∨ v.isText = true) → (∀ v, v ∈ sids ↔ v ∈ sids') →
        ∃ after, s.logoutBackAll sids = .ok after ∧ s.logoutBackAll sids' = .ok after
          ∧ (∀ sid id, (after.index place).get? sid = some id ↔
              entries.get? sid = some id ∧ ¬ IsNamed sids sid)
          ∧ ∀ id data, after.store.sessions.get? id = some data ↔
              s.store.sessions.get? id = some data
                ∧ ¬ ∃ sid, IsNamed sids sid ∧ entries.get? sid = some id)
      ∧ ∀ e v, (s.logoutFront e v >>= fun s' => s'.logoutFront e v) = s.logoutFront e v := by
  refine ⟨?_, logoutFront_logoutFront h hdistinct⟩
  intro entries hindex sids sids' hsids hsame
  have hentries : entries.keys.Nodup := by
    rw [hindex] at hdistinct
    exact hdistinct
  have hsids' : ∀ v ∈ sids', v = .null ∨ v.isText = true := fun v hv => hsids v ((hsame v).2 hv)
  have hnames : ∀ sid, sid ∈ namesOf sids' ↔ sid ∈ namesOf sids := by
    intro sid
    rw [mem_namesOf_iff, mem_namesOf_iff, IsNamed, IsNamed, hsame]
  refine ⟨s.endedAll place entries (namesOf sids), logoutBackAll_eq h hindex hentries hsids, ?_,
    fun sid id => get?_index_endedAll h, fun id data => get?_store_endedAll⟩
  rw [logoutBackAll_eq h hindex hentries hsids', endedAll_congr hnames]

/-! ## Two names for one session -/

/-- The sessions of a site that has two names for the session `a`. -/
def sharedSessions : Sessions where
  store := { cookieName := "session", sessions := [("a", []), ("b", [])], supply := ⟨toString, 0⟩ }
  indexes := [.memory [("p", "a"), ("q", "a"), ("r", "b")]]
  handler := .indexed 0

/-- The session `a` is over after the logouts for its names, and the session `b` is not. -/
theorem any_order_sharedSessions :
    sharedSessions.Indexed 0 ∧ (sharedSessions.index 0).Distinct
      ∧ ∃ after, sharedSessions.logoutBackAll [.text "p", .text "q"] = .ok after
        ∧ sharedSessions.logoutBackAll [.text "q", .text "p", .text "q"] = .ok after
        ∧ after.store.sessions.get? "a" = none ∧ after.store.sessions.get? "b" = some [] := by
  have h : sharedSessions.Indexed 0 := ⟨rfl, by decide, by simp [SessionStore.Distinct,
    Entries.keys, sharedSessions]⟩
  have hdistinct : (sharedSessions.index 0).Distinct := by
    show ["p", "q", "r"].Nodup
    decide
  obtain ⟨after, hfirst, hsecond, -, hstore⟩ := (logouts_any_order h hdistinct).1 _ rfl
    [.text "p", .text "q"] [.text "q", .text "p", .text "q"] (by simp [Value.isText])
    (by simp [or_comm])
  refine ⟨h, hdistinct, after, hfirst, hsecond, ?_, (hstore "b" []).2 ⟨rfl, ?_⟩⟩
  · refine Option.eq_none_iff_forall_ne_some.2 fun data hlive => ?_
    exact ((hstore "a" data).1 hlive).2 ⟨"p", ⟨by simp, by decide⟩, rfl⟩
  · -- neither of the two names stands for the session that is left
    intro hfiled
    obtain ⟨sid, ⟨hsid, -⟩, hget⟩ := hfiled
    have hname : sid = "p" ∨ sid = "q" := by simpa using hsid
    rcases hname with rfl | rfl
    · exact absurd hget (by decide)
    · exact absurd hget (by decide)

end RelyingParty.Logout.Sessions
