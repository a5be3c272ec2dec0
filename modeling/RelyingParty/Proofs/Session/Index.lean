import RelyingParty.Logout.Handler
import RelyingParty.Proofs.Session.Store
import RelyingParty.Proofs.Steps

set_option autoImplicit false

/-! # Sessions that an index reaches

An index keeps one entry for each name of a provider session, or, if it is shared, for each key. A
back-channel logout reaches the session that is found under the name it gives, and only that one.

`Reaches` says that a logout for a name would reach a session, or that the session is over already.
Back-channel logouts keep it so whatever they name, since an entry is only taken out together with
its session. A front-channel logout takes out an entry and ends the session of the browser instead,
which may be another one. -/

namespace RelyingParty

/-- What a shared store takes is an entry under the key. -/
theorem SharedIndex.put_eq_ok {index : SharedIndex} {store store' : KeyValueStore} {sid id : String}
    (h : index.put store sid id = .ok store') :
    ∃ expires, store' = store.insert (index.key sid) ⟨id, expires⟩ := by
  unfold SharedIndex.put at h
  split at h
  · exact absurd h (by simp)
  · exact ⟨false, (Except.ok.inj h).symm⟩
  · split at h
    · exact ⟨true, (Except.ok.inj h).symm⟩
    · exact absurd h (by simp)

namespace SessionIndex

/-! ## Entries -/

/-- What a name is filed under: itself in memory, and its key in a shared store. -/
def entry : SessionIndex → String → String
  | .memory _, sid => sid
  | .shared index _, sid => index.key sid

variable {i j : SessionIndex} {sid other id : String} {v : Value}

theorem get?_congr (h : i.entry sid = i.entry other) : i.get? sid = i.get? other := by
  cases i with
  | memory sessions =>
    obtain rfl : sid = other := h
    rfl
  | shared index store =>
    have hkey : index.key sid = index.key other := h
    rw [get?, SharedIndex.get?, hkey]
    rfl

@[simp] theorem entry_remove (i : SessionIndex) (sid : String) :
    (i.remove sid).entry = i.entry := by
  cases i with
  | memory sessions => rfl
  | shared index store => rfl

theorem get?_remove_of_ne (h : i.entry sid ≠ i.entry other) :
    (i.remove sid).get? other = i.get? other := by
  cases i with
  | memory sessions => exact Entries.get?_erase_of_ne sessions h
  | shared index store => exact congrArg (Option.map _) (Entries.get?_erase_of_ne store h)

/-- Recording changes what is found under names of the one entry. -/
theorem put_eq_ok (h : i.put sid id = .ok j) :
    j.entry = i.entry
      ∧ ∀ other, j.get? other = if i.entry sid = i.entry other then some id else i.get? other := by
  cases i with
  | memory sessions =>
    obtain rfl := Except.ok.inj h
    refine ⟨rfl, fun other => ?_⟩
    rw [get?, Entries.get?_insert]
    by_cases hname : sid = other
    · simp [entry, hname]
    · simp [entry, hname, get?]
  | shared index store =>
    obtain ⟨store', hstored, rfl⟩ := map_eq_ok_iff.1 h
    obtain ⟨expires, rfl⟩ := SharedIndex.put_eq_ok hstored
    refine ⟨rfl, fun other => ?_⟩
    rw [get?, SharedIndex.get?, Entries.get?_insert]
    by_cases hkey : index.key sid = index.key other
    · simp [entry, hkey]
    · simp [entry, hkey, get?, SharedIndex.get?]

/-- An index accepts entries: the store of a shared one accepts the time after which they expire. -/
def Accepts : SessionIndex → Prop
  | .memory _ => True
  | .shared index _ => ∃ seconds, SharedIndex.expiry index.ttl = .ok seconds
    ∧ ∀ n, seconds = some n → SharedIndex.isAccepted n = true

theorem Accepts.put (h : i.Accepts) (sid id : String) : ∃ j, i.put sid id = .ok j ∧ j.Accepts := by
  cases i with
  | memory sessions => exact ⟨_, rfl, trivial⟩
  | shared index store =>
    obtain ⟨seconds, hseconds, haccepted⟩ := h
    rw [SessionIndex.put, SharedIndex.put, hseconds]
    cases seconds with
    | none => exact ⟨_, rfl, none, hseconds, haccepted⟩
    | some n =>
      dsimp only
      rw [if_pos (haccepted n rfl)]
      exact ⟨_, rfl, some n, hseconds, haccepted⟩

theorem Accepts.remove (h : i.Accepts) (sid : String) : (i.remove sid).Accepts := by
  cases i with
  | memory sessions => trivial
  | shared index store => exact h

/-! ## Names -/

/-- Only text names an entry. -/
theorem nameOf_eq_some_iff : i.nameOf v = .ok (some sid) ↔ v = .text sid := by
  cases v with
  | text s => simp [nameOf]
  | _ =>
    cases i with
    | memory sessions => simp only [nameOf]; split <;> simp
    | shared index store => simp [nameOf]

/-- The name that a logout gives a session of the provider. -/
def named? : Value → Option String
  | .text name => if name = "" then none else some name
  | _ => none

/-- What a logout leaves of an index. -/
def forgotten (i : SessionIndex) (v : Value) : SessionIndex := (named? v).elim i i.remove

/-- What a back-channel logout finds in an index. -/
def found? (i : SessionIndex) (v : Value) : Option String := (named? v).bind i.get?

theorem named?_eq_some_iff : named? v = some sid ↔ v = .text sid ∧ sid ≠ "" := by
  cases v with
  | text name =>
    rw [named?, Value.text.injEq]
    split
    · next hempty => simp [hempty, eq_comm]
    · next hne =>
      rw [Option.some.injEq]
      exact ⟨fun h => ⟨h, h ▸ hne⟩, And.left⟩
  | _ => simp [named?]

theorem named?_of_falsy (h : v.truthy = false) : named? v = none := by
  rw [Option.eq_none_iff_forall_ne_some]
  intro sid hsid
  obtain ⟨rfl, hne⟩ := named?_eq_some_iff.1 hsid
  exact hne (by simpa [Value.truthy] using h)

theorem forgotten_cases (i : SessionIndex) (v : Value) :
    i.forgotten v = i ∨ ∃ name, named? v = some name ∧ i.forgotten v = i.remove name := by
  unfold forgotten
  cases named? v with
  | none => exact Or.inl rfl
  | some name => exact Or.inr ⟨name, rfl, rfl⟩

theorem forgotten_of_unnamed (h : ∀ sid, v ≠ Value.ofText? sid) : i.forgotten v = i := by
  cases hname : named? v with
  | none => rw [forgotten, hname, Option.elim_none]
  | some name => exact absurd (named?_eq_some_iff.1 hname).1 (h (some name))

/-- What a logout gives is a name or none, unless an index cannot look for it. -/
theorem nameOf_cases (i : SessionIndex) (h : v.truthy = true) :
    i.nameOf v = .ok (named? v)
      ∨ (∃ cause, i.nameOf v = .error cause) ∧ ∀ sid, v ≠ Value.ofText? sid := by
  cases hname : i.nameOf v with
  | error cause =>
    refine Or.inr ⟨⟨cause, rfl⟩, ?_⟩
    rintro (_ | sid) rfl
    · exact absurd h (by decide)
    · exact absurd hname (by simp [nameOf, Value.ofText?])
  | ok name =>
    refine Or.inl (congrArg Except.ok ?_)
    cases name with
    | none =>
      refine (Option.eq_none_iff_forall_ne_some.2 fun sid hsid => ?_).symm
      obtain ⟨rfl, -⟩ := named?_eq_some_iff.1 hsid
      exact absurd (Except.ok.inj hname) (by simp)
    | some name =>
      obtain rfl := nameOf_eq_some_iff.1 hname
      refine (named?_eq_some_iff.2 ⟨rfl, ?_⟩).symm
      simpa [Value.truthy] using h

/-! ## What logouts do -/

variable {s t : SessionStore} {e : Exchange}

/-- A front-channel logout forgets what it names and ends the session of the browser, or it comes to
    a fault. -/
theorem logoutFront_ok_or_error (i : SessionIndex) (s : SessionStore) (e : Exchange) (v : Value) :
    i.logoutFront s e v = .ok (i.forgotten v, ((s.resolve e).map s.destroy).getD s)
      ∨ (∃ cause, i.logoutFront s e v = .error cause) ∧ ∀ sid, v ≠ Value.ofText? sid := by
  unfold logoutFront forget
  cases htruthy : v.truthy with
  | false =>
    rw [forgotten, named?_of_falsy htruthy]
    exact Or.inl rfl
  | true =>
    rcases i.nameOf_cases htruthy with hname | ⟨⟨cause, hname⟩, hother⟩
    · rw [if_pos rfl, hname, forgotten]
      cases named? v with
      | none => exact Or.inl rfl
      | some name => exact Or.inl rfl
    · rw [if_pos rfl, hname]
      exact Or.inr ⟨⟨cause, rfl⟩, hother⟩

/-- A back-channel logout forgets what it names and ends the session that it finds, or it comes to a
    fault. -/
theorem logoutBack_ok_or_error (i : SessionIndex) (s : SessionStore) (v : Value) :
    i.logoutBack s v = .ok (i.forgotten v, ((i.found? v).map s.destroy).getD s)
      ∨ (∃ cause, i.logoutBack s v = .error cause) ∧ ∀ sid, v ≠ Value.ofText? sid := by
  unfold logoutBack
  cases htruthy : v.truthy with
  | false =>
    rw [forgotten, found?, named?_of_falsy htruthy]
    exact Or.inl rfl
  | true =>
    rcases i.nameOf_cases htruthy with hname | ⟨⟨cause, hname⟩, hother⟩
    · rw [if_pos rfl, hname, forgotten, found?]
      cases named? v with
      | none => exact Or.inl rfl
      | some name => exact Or.inl rfl
    · rw [if_pos rfl, hname]
      exact Or.inr ⟨⟨cause, rfl⟩, hother⟩

/-- A back-channel logout takes out an entry together with its session, or does nothing. -/
theorem logoutBack_cases (h : i.logoutBack s v = .ok (j, t)) :
    (j = i ∧ t = s ∧ ∀ name, v = .text name → name = "")
      ∨ ∃ name, v = .text name ∧ name ≠ "" ∧ j = i.remove name
        ∧ t = ((i.get? name).map s.destroy).getD s := by
  rcases i.logoutBack_ok_or_error s v with hok | ⟨⟨cause, hfault⟩, -⟩
  · obtain ⟨rfl, rfl⟩ := Prod.mk.inj (Except.ok.inj (hok.symm.trans h))
    rw [forgotten, found?]
    cases hname : named? v with
    | none =>
      refine Or.inl ⟨rfl, rfl, fun name hv => ?_⟩
      refine Classical.byContradiction fun hne => ?_
      exact absurd (hname.symm.trans (named?_eq_some_iff.2 ⟨hv, hne⟩)) (by simp)
    | some name =>
      obtain ⟨hv, hne⟩ := named?_eq_some_iff.1 hname
      exact Or.inr ⟨name, hv, hne, rfl, rfl⟩
  · exact absurd (hfault.symm.trans h) (by simp)

/-- A front-channel logout ends the session of the browser, and may take out an entry. -/
theorem logoutFront_cases (h : i.logoutFront s e v = .ok (j, t)) :
    t = ((s.resolve e).map s.destroy).getD s
      ∧ (j = i ∨ ∃ name, v = .text name ∧ j = i.remove name) := by
  rcases i.logoutFront_ok_or_error s e v with hok | ⟨⟨cause, hfault⟩, -⟩
  · obtain ⟨rfl, rfl⟩ := Prod.mk.inj (Except.ok.inj (hok.symm.trans h))
    refine ⟨rfl, (i.forgotten_cases v).imp_right ?_⟩
    rintro ⟨name, hname, hremoved⟩
    exact ⟨name, (named?_eq_some_iff.1 hname).1, hremoved⟩
  · exact absurd (hfault.symm.trans h) (by simp)

/-- Recording files the session of a request, which is started if there is none, under a name that
    is not empty. -/
theorem record_of_ne (hne : sid ≠ "") :
    i.record s e sid = (i.put sid (s.resolveOrStart e).1, (s.resolveOrStart e).2) := if_neg hne

/-! ## Faults -/

/-- The name in a token that comes to no fault before is text, or left out. A shared index has no
    key for it if it is broken. -/
theorem logoutBack_fault_iff {cause : Fault} (hv : v = .null ∨ v.isText = true) :
    i.logoutBack s v = .error cause ↔
      cause = .notEncodable ∧ (∃ points, v = .brokenText points ∧ points ≠ [])
        ∧ ∃ index store, i = .shared index store := by
  rcases hv with rfl | htext
  · simp [logoutBack, Value.truthy]
  · cases v with
    | text name =>
      by_cases hname : name = ""
      · simp [logoutBack, Value.truthy, hname]
      · simp [logoutBack, Value.truthy, hname, nameOf, Except.map]
    | brokenText points =>
      cases points with
      | nil => simp [logoutBack, Value.truthy]
      | cons point rest =>
        cases i with
        | memory sessions => simp [logoutBack, Value.truthy, nameOf, Value.hashable, Except.map]
        | shared index store =>
          simp [logoutBack, Value.truthy, nameOf, Value.isText, Except.map, eq_comm]
    | _ => exact absurd htext (by simp [Value.isText])

theorem exists_logoutBack_text (i : SessionIndex) (s : SessionStore) (sid : String) :
    ∃ r, i.logoutBack s (.text sid) = .ok r :=
  ⟨_, (i.logoutBack_ok_or_error s (.text sid)).resolve_right fun h => h.2 (some sid) rfl⟩

/-- A browser names a session by text, or not at all. -/
theorem exists_logoutFront (i : SessionIndex) (s : SessionStore) (e : Exchange)
    (sid : Option String) : ∃ r, i.logoutFront s e (Value.ofText? sid) = .ok r :=
  ⟨_, (i.logoutFront_ok_or_error s e (Value.ofText? sid)).resolve_right fun h => h.2 sid rfl⟩

/-! ## What logouts keep -/

/-- A logout for a name would end a session, or the session is over. -/
def Reaches (i : SessionIndex) (s : SessionStore) (sid id : String) : Prop :=
  i.get? sid = some id ∨ s.contains id = false

theorem over_logoutBack (hs : s.Distinct) (hover : s.contains id = false)
    (h : i.logoutBack s v = .ok (j, t)) : t.contains id = false := by
  rcases logoutBack_cases h with ⟨-, rfl, -⟩ | ⟨name, -, -, -, rfl⟩
  · exact hover
  · exact SessionStore.over_ended hs hover

theorem over_logoutFront (hs : s.Distinct) (hover : s.contains id = false)
    (h : i.logoutFront s e v = .ok (j, t)) : t.contains id = false := by
  obtain ⟨rfl, -⟩ := logoutFront_cases h
  exact SessionStore.over_ended hs hover

/-- Taking out an entry together with its session loses no session. -/
theorem Reaches.logoutBack (hs : s.Distinct) (hreaches : i.Reaches s sid id)
    (h : i.logoutBack s v = .ok (j, t)) : j.Reaches t sid id := by
  rcases logoutBack_cases h with ⟨rfl, rfl, -⟩ | ⟨name, -, -, rfl, rfl⟩
  · exact hreaches
  · rcases hreaches with hfound | hover
    · by_cases hentry : i.entry name = i.entry sid
      · -- the entry is gone, and so is its session
        rw [get?_congr hentry, hfound]
        exact Or.inr (SessionStore.over_ended_self hs)
      · exact Or.inl ((get?_remove_of_ne hentry).trans hfound)
    · exact Or.inr (SessionStore.over_ended hs hover)

/-- A logout for the name ends the session. -/
theorem Reaches.over_of_logoutBack (hs : s.Distinct) (hreaches : i.Reaches s sid id)
    (hne : sid ≠ "") (h : i.logoutBack s (.text sid) = .ok (j, t)) : t.contains id = false := by
  rcases logoutBack_cases h with ⟨-, -, hempty⟩ | ⟨name, hname, -, -, rfl⟩
  · exact absurd (hempty sid rfl) hne
  · obtain rfl := Value.text.inj hname
    rcases hreaches with hfound | hover
    · rw [hfound]
      exact SessionStore.over_ended_self hs
    · exact SessionStore.over_ended hs hover

/-- A front-channel logout that takes out the entry of a session has to come from its browser. -/
theorem Reaches.logoutFront (hs : s.Distinct) (hreaches : i.Reaches s sid id)
    (hbrowser : ∀ name, v = .text name → i.entry name = i.entry sid → s.IsBrowserOf e id)
    (h : i.logoutFront s e v = .ok (j, t)) : j.Reaches t sid id := by
  obtain ⟨rfl, rfl | ⟨name, hname, rfl⟩⟩ := logoutFront_cases h
  · exact hreaches.imp_right (SessionStore.over_ended hs)
  · rcases hreaches with hfound | hover
    · by_cases hentry : i.entry name = i.entry sid
      · -- the entry is gone, and the browser's session is this one
        cases hlive : s.contains id with
        | false => exact Or.inr (SessionStore.over_ended hs hlive)
        | true =>
          have hmine : s.resolve e = some id := (hbrowser name hname hentry).resolve hlive
          rw [hmine]
          exact Or.inr (SessionStore.over_ended_self hs)
      · exact Or.inl ((get?_remove_of_ne hentry).trans hfound)
    · exact Or.inr (SessionStore.over_ended hs hover)

/-! ## What records keep -/

/-- A session that has just been recorded for a name is reached. -/
theorem reaches_put (h : i.put sid id = .ok j) (t : SessionStore) : j.Reaches t sid id := by
  obtain ⟨-, hget⟩ := put_eq_ok h
  exact Or.inl (by rw [hget, if_pos rfl])

/-- What is recorded for the name has to be the session, and the session has to be recorded for
    the name only. -/
theorem Reaches.put {name mine : String} (hreaches : i.Reaches s sid id)
    (hsame : i.entry name = i.entry sid ↔ mine = id)
    (hlive : ∀ x, t.contains x = true → x = mine ∨ s.contains x = true)
    (h : i.put name mine = .ok j) : j.Reaches t sid id := by
  obtain ⟨-, hget⟩ := put_eq_ok h
  by_cases hentry : i.entry name = i.entry sid
  · exact Or.inl (by rw [hget, if_pos hentry, hsame.1 hentry])
  · rcases hreaches with hfound | hover
    · exact Or.inl (by rw [hget, if_neg hentry, hfound])
    · -- a session that is over could only be started again by being recorded
      right
      cases hcontains : t.contains id with
      | false => rfl
      | true =>
        rcases hlive id hcontains with rfl | hlive
        · exact absurd (hsame.2 rfl) hentry
        · exact absurd hlive (by simp [hover])

end SessionIndex

end RelyingParty
