import RelyingParty.Proofs.Logout.History

set_option autoImplicit false

/-! # Handlers over one index

Several handlers may be built over one index, which others have too. What is recorded through such a
handler should be found in the index, what is put into the index should be ended by a logout through
the handler, and the handlers should end each other's sessions, whatever else happens.

It is so exactly if the index was not known to hold nothing when the handlers were built:
`joined_built_iff`. A handler that is given an index in memory without entries has one of its own.
-/

namespace RelyingParty

/-! ## Places -/

namespace IndexCells

variable {cells : IndexCells} {place other : Nat}

theorem read_write_of_ne (h : place ≠ other) (i : SessionIndex) :
    (cells.write place i).read other = cells.read other := by
  rw [read, read, write, List.getD_eq_getElem?_getD, List.getElem?_set_ne h,
    ← List.getD_eq_getElem?_getD]

theorem forHandler_of_held (h : (cells.read place).isKnownEmpty = false) :
    cells.forHandler (some place) = (place, cells) := by
  simp [forHandler, h]

theorem forHandler_of_empty (h : (cells.read place).isKnownEmpty = true) :
    cells.forHandler (some place) = (cells.length, cells ++ [.empty]) := by
  simp [forHandler, h, allocate]

/-- Handlers are built over the indexes that there are, or over a new one. -/
theorem forHandler_cases (cells : IndexCells) (given : Option Nat) :
    (cells.forHandler given).2 = cells ∨ (cells.forHandler given).2 = cells ++ [.empty] := by
  unfold forHandler
  split
  · split
    · exact Or.inr rfl
    · exact Or.inl rfl
  · exact Or.inr rfl

theorem read_append (h : place < cells.length) (more : IndexCells) :
    read (cells ++ more) place = cells.read place := by
  rw [read, read, List.getD_eq_getElem?_getD, List.getElem?_append_left h,
    ← List.getD_eq_getElem?_getD]

end IndexCells

namespace Logout

/-! ## Steps -/

/-- A handler is built, or the index in a place is used: by a handler, or by who else has it. -/
inductive Step where
  | build (given : Option Nat)
  | use (place : Nat) (op : Operation)

/-- The name that an operation gives a session of the provider that it may do something about. -/
def Operation.named? : Operation → Option String
  | .handle a => a.named?
  | .put sid _ | .remove sid => some sid
  | .get _ => none

namespace Sessions

/-- The sessions as a handler with the index in a place has them. -/
def through (s : Sessions) (place : Nat) : Sessions := { s with handler := .indexed place }

/-- The sessions after a step. -/
def step (s : Sessions) : Step → Sessions
  | .build given => { s with indexes := (s.indexes.forHandler given).2 }
  | .use place op => ((s.through place).perform op).sessions

/-- The sessions after some steps. -/
def stepAll (s : Sessions) (steps : List Step) : Sessions := steps.foldl step s

/-- A place is there, and each session is there once. -/
structure Placed (s : Sessions) (place : Nat) : Prop where
  inRange : place < s.indexes.length
  distinct : s.store.Distinct

/-- A step may do something about the entry of a name in a place. -/
def Touches (s : Sessions) (place : Nat) (sid : String) : Step → Prop
  | .build _ => False
  | .use used op => used = place ∧ ∃ name, op.named? = some name
    ∧ (s.index place).entry name = (s.index place).entry sid

/-- An operation on the index in a place files a session under a name: it is recorded, or put there.
    -/
def FilesIn (s : Sessions) (place : Nat) (op : Operation) (sid id : String) : Prop :=
  ((s.through place).perform op).result = .ok none
    ∧ (op = .put sid id ∨ ∃ a, op = .handle a ∧ s.Files a sid id)

/-- Whatever is filed through one place is found in another one, and ended by a logout there, until
    another step does something about it. -/
def Joins (s : Sessions) (place other : Nat) : Prop :=
  ∀ before op between sid id, (s.stepAll before).FilesIn place op sid id →
    (∀ st ∈ between, ¬ ((s.stepAll before).step (.use place op)).Touches place sid st
      ∧ ¬ ((s.stepAll before).step (.use place op)).Touches other sid st) →
    ((s.stepAll (before ++ .use place op :: between)).index other).get? sid = some id
      ∧ (sid ≠ "" → (s.stepAll (before ++ .use place op :: between ++
        [.use other (.handle (.back (.text sid)))])).store.contains id = false)

/-- Two places have the same entries. -/
def Joined (s : Sessions) (place other : Nat) : Prop := s.Joins place other ∧ s.Joins other place

/-- A handler is built over the index in a place: the place of the index it uses, and the sessions
    after that. -/
def built (s : Sessions) (given : Nat) : Nat × Sessions :=
  ((s.indexes.forHandler (some given)).1, s.step (.build (some given)))

variable {s : Sessions} {place other given : Nat} {op : Operation} {steps : List Step}
  {sid id : String}

/-! ## One step -/

theorem Placed.through (h : s.Placed place) : (s.through place).Indexed place :=
  ⟨rfl, h.inRange, h.distinct⟩

/-- An operation keeps all entries but those of the name it gives, and changes no other index. -/
theorem perform_cases (h : s.handler = .indexed place) (op : Operation) :
    ∃ i t, (s.perform op).sessions = s.updated place i t ∧ (s.store.Distinct → t.Distinct)
      ∧ (i = s.index place ∨ ∃ name, op.named? = some name
        ∧ (i = (s.index place).remove name ∨ ∃ id, (s.index place).put name id = .ok i)) := by
  have hforgotten (v : Value) : (s.index place).forgotten v = s.index place
      ∨ ∃ name, SessionIndex.named? v = some name
        ∧ ((s.index place).forgotten v = (s.index place).remove name
          ∨ ∃ id, (s.index place).put name id = .ok ((s.index place).forgotten v)) := by
    rcases (s.index place).forgotten_cases v with hkept | ⟨name, hname, hremoved⟩
    · exact Or.inl hkept
    · exact Or.inr ⟨name, hname, Or.inl hremoved⟩
  have hsame : s = s.updated place (s.index place) s.store := (updated_index s place).symm
  cases op with
  | handle a =>
    cases a with
    | record e name =>
      by_cases hempty : name = ""
      · subst hempty
        exact ⟨_, _, congrArg Performed.sessions (act_record_empty h), fun hs => hs, Or.inl rfl⟩
      · cases hput : (s.index place).put name (s.store.resolveOrStart e).1 with
        | ok i =>
          refine ⟨i, _, congrArg Performed.sessions (act_record_of_ok h hempty hput),
            fun hs => hs.resolveOrStart e, Or.inr ⟨name, ?_, Or.inr ⟨_, hput⟩⟩⟩
          exact SessionIndex.named?_eq_some_iff.2 ⟨rfl, hempty⟩
        | error cause =>
          exact ⟨_, _, congrArg Performed.sessions (act_record_of_error h hempty hput),
            fun hs => hs.resolveOrStart e, Or.inl rfl⟩
    | front e v =>
      obtain ⟨found, -, hafter⟩ := sessions_act_front h e v
      exact ⟨_, _, hafter, fun hs => hs.ended found, hforgotten v⟩
    | back v =>
      obtain ⟨found, -, hafter⟩ := sessions_act_back h v
      exact ⟨_, _, hafter, fun hs => hs.ended found, hforgotten v⟩
  | put name id =>
    cases hput : (s.index place).put name id with
    | ok i =>
      exact ⟨i, _, congrArg Performed.sessions (perform_put h hput), fun hs => hs,
        Or.inr ⟨name, rfl, Or.inr ⟨id, hput⟩⟩⟩
    | error cause =>
      exact ⟨_, _, (congrArg Performed.sessions (perform_put_of_error h hput)).trans hsame,
        fun hs => hs, Or.inl rfl⟩
  | get name =>
    exact ⟨_, _, (congrArg Performed.sessions (perform_get h name)).trans hsame, fun hs => hs,
      Or.inl rfl⟩
  | remove name =>
    exact ⟨_, _, congrArg Performed.sessions (perform_remove h name), fun hs => hs,
      Or.inr ⟨name, rfl, Or.inl rfl⟩⟩

theorem Placed.step (h : s.Placed place) (st : Step) : (s.step st).Placed place := by
  cases st with
  | build given =>
    refine ⟨?_, h.distinct⟩
    rcases s.indexes.forHandler_cases given with hsame | hmore
    · exact h.inRange.trans_eq (congrArg List.length hsame.symm)
    · refine h.inRange.trans_le ?_
      rw [Sessions.step, hmore, List.length_append]
      exact Nat.le_add_right _ _
  | use used op =>
    obtain ⟨i, t, hafter, hdistinct, -⟩ := perform_cases (s := s.through used) rfl op
    rw [Sessions.step, hafter]
    exact ⟨h.inRange.trans_eq List.length_set.symm, hdistinct h.distinct⟩

/-- A step leaves the kind of an index, and the entries that it does not touch. -/
theorem index_step (h : s.Placed place) (st : Step) :
    ((s.step st).index place).shared? = (s.index place).shared?
      ∧ ∀ sid, ¬ s.Touches place sid st →
        ((s.step st).index place).get? sid = (s.index place).get? sid := by
  cases st with
  | build given =>
    have hindex : (s.step (.build given)).index place = s.index place := by
      show IndexCells.read (s.indexes.forHandler given).2 place = _
      rcases s.indexes.forHandler_cases given with hsame | hmore
      · rw [hsame, index]
      · rw [hmore, IndexCells.read_append h.inRange, index]
    rw [hindex]
    exact ⟨rfl, fun _ _ => rfl⟩
  | use used op =>
    obtain ⟨i, t, hafter, -, hcases⟩ := perform_cases (s := s.through used) rfl op
    rw [Sessions.step, hafter]
    by_cases hused : used = place
    · subst hused
      rw [index_updated h.through]
      have huntouched (name sid : String) (hname : op.named? = some name)
          (hun : ¬ s.Touches used sid (.use used op)) :
          (s.index used).entry name ≠ (s.index used).entry sid :=
        fun hentry => hun ⟨rfl, name, hname, hentry⟩
      rcases hcases with rfl | ⟨name, hname, rfl | ⟨id, hput⟩⟩
      · exact ⟨rfl, fun _ _ => rfl⟩
      · exact ⟨SessionIndex.shared?_remove _ _,
          fun sid hun => SessionIndex.get?_remove_of_ne (huntouched name sid hname hun)⟩
      · refine ⟨SessionIndex.shared?_put hput, fun sid hun => ?_⟩
        exact ((SessionIndex.put_eq_ok hput).2 sid).trans (if_neg (huntouched name sid hname hun))
    · have hindex : ((s.through used).updated used i t).index place = s.index place :=
        IndexCells.read_write_of_ne hused i
      rw [hindex]
      exact ⟨rfl, fun _ _ => rfl⟩

/-- What was filed is found. -/
theorem get?_of_filesIn (h : s.Placed place) (hfiles : s.FilesIn place op sid id) :
    ((s.step (.use place op)).index place).get? sid = some id := by
  have hfound {i : SessionIndex} (t : SessionStore) (hput : (s.index place).put sid id = .ok i) :
      (((s.through place).updated place i t).index place).get? sid = some id := by
    rw [index_updated h.through, (SessionIndex.put_eq_ok hput).2, if_pos rfl]
  have hthrough : (s.through place).handler = .indexed place := rfl
  obtain ⟨hok, rfl | ⟨a, rfl, e, rfl, hne, rfl⟩⟩ := hfiles
  · cases hput : (s.index place).put sid id with
    | ok i =>
      rw [step, perform_put hthrough hput]
      exact hfound _ hput
    | error cause =>
      rw [perform_put_of_error hthrough hput] at hok
      exact absurd hok (by simp)
  · cases hput : (s.index place).put sid (s.store.resolveOrStart e).1 with
    | ok i =>
      rw [step, perform, act_record_of_ok hthrough hne hput]
      exact hfound _ hput
    | error cause =>
      rw [perform, act_record_of_error hthrough hne hput] at hok
      exact absurd hok (by simp)

/-- A back-channel logout ends the session that is found. -/
theorem over_step_back (h : s.Placed place) (hfound : (s.index place).get? sid = some id)
    (hne : sid ≠ "") :
    (s.step (.use place (.handle (.back (.text sid))))).store.contains id = false := by
  have hfound? : ((s.through place).index place).found? (.text sid) = some id := by
    rw [SessionIndex.found?, SessionIndex.named?_eq_some_iff.2 ⟨rfl, hne⟩]
    exact hfound
  have hback : (s.through place).act (.back (.text sid)) = _ := act_back_ofText? rfl (some sid)
  rw [step, perform, hback, Value.ofText?, hfound?]
  exact SessionStore.over_ended_self h.distinct

/-! ## Any steps -/

theorem Placed.stepAll (h : s.Placed place) (steps : List Step) :
    (s.stepAll steps).Placed place := by
  induction steps generalizing s with
  | nil => exact h
  | cons st rest ih => exact ih (h.step st)

theorem shared?_stepAll (h : s.Placed place) (steps : List Step) :
    ((s.stepAll steps).index place).shared? = (s.index place).shared? := by
  induction steps generalizing s with
  | nil => rfl
  | cons st rest ih => exact (ih (h.step st)).trans (index_step h st).1

theorem get?_stepAll (h : s.Placed place) (hun : ∀ st ∈ steps, ¬ s.Touches place sid st) :
    ((s.stepAll steps).index place).get? sid = (s.index place).get? sid := by
  induction steps generalizing s with
  | nil => rfl
  | cons st rest ih =>
    obtain ⟨hst, hrest⟩ := List.forall_mem_cons.1 hun
    obtain ⟨hkind, hget⟩ := index_step h st
    refine (ih (h.step st) fun st' hst' htouches => hrest st' hst' ?_).trans (hget sid hst)
    -- names are filed as before
    cases st' with
    | build given => exact htouches
    | use used op =>
      obtain ⟨hused, name, hname, hentry⟩ := htouches
      rw [SessionIndex.entry_congr hkind] at hentry
      exact ⟨hused, name, hname, hentry⟩

/-- What is filed in a place is found there, and ended by a logout. -/
theorem joins_self (h : s.Placed place) : s.Joins place place := by
  intro before op between sid id hfiles hun
  have hfiled : ((s.stepAll before).step (.use place op)).Placed place :=
    (h.stepAll before).step (.use place op)
  have hfound : ((s.stepAll (before ++ .use place op :: between)).index place).get? sid
      = some id := by
    rw [stepAll, List.foldl_append]
    refine (get?_stepAll hfiled fun st hst => (hun st hst).1).trans ?_
    exact get?_of_filesIn (h.stepAll before) hfiles
  refine ⟨hfound, fun hne => ?_⟩
  rw [stepAll, List.foldl_append]
  exact over_step_back (h.stepAll _) hfound hne

/-- What is put into an index in memory is not found in another place. -/
theorem not_joins_of_ne (hother : s.Placed other)
    (hmemory : (s.index place).shared? = none) (hne : place ≠ other) : ¬ s.Joins place other := by
  intro hjoins
  obtain ⟨sessions, hsessions⟩ : ∃ sessions, s.index place = .memory sessions := by
    cases hindex : s.index place with
    | memory sessions => exact ⟨sessions, rfl⟩
    | shared index store => exact absurd hmemory (by simp [hindex, SessionIndex.shared?])
  -- the other place may have an entry already, so another session is put
  obtain ⟨id, hid⟩ : ∃ id, (s.index other).get? "p" ≠ some id := by
    by_cases hx : (s.index other).get? "p" = some "x"
    · exact ⟨"y", by rw [hx]; decide⟩
    · exact ⟨"x", hx⟩
  have hput : (s.index place).put "p" id = .ok (.memory (sessions.insert "p" id)) := by
    rw [hsessions]
    rfl
  have hfiles : s.FilesIn place (.put "p" id) "p" id :=
    ⟨congrArg Performed.result (perform_put (s := s.through place) rfl hput), Or.inl rfl⟩
  obtain ⟨hfound, -⟩ := hjoins [] (.put "p" id) [] "p" id hfiles (by simp)
  have huntouched : ¬ s.Touches other "p" (.use place (.put "p" id)) :=
    fun htouches => hne htouches.1
  exact hid (((index_step hother _).2 "p" huntouched).symm.trans hfound)

/-- Places of which one is in memory have the same entries only if they are one. -/
theorem joined_iff (h : s.Placed place) (hother : s.Placed other)
    (hmemory : place ≠ other → (s.index place).shared? = none ∨ (s.index other).shared? = none) :
    s.Joined place other ↔ place = other := by
  constructor
  · intro hjoined
    by_contra hne
    rcases hmemory hne with hmine | htheirs
    · exact not_joins_of_ne hother hmine hne hjoined.1
    · exact not_joins_of_ne h htheirs (Ne.symm hne) hjoined.2
  · rintro rfl
    exact ⟨joins_self h, joins_self h⟩

/-! ## Building handlers -/

theorem Placed.built (h : s.Placed place) (given : Nat) : (s.built given).2.Placed place :=
  h.step (.build (some given))

/-- A handler uses the index that it is given, or one in a new place, which is in memory. -/
theorem built_cases (hgiven : s.Placed given) :
    (s.built given).2.Placed (s.built given).1
      ∧ ((s.index given).isKnownEmpty = false ∧ (s.built given).1 = given
        ∨ (s.index given).isKnownEmpty = true ∧ (s.built given).1 = s.indexes.length
          ∧ ((s.built given).2.index (s.built given).1).shared? = none) := by
  cases hempty : (s.index given).isKnownEmpty with
  | false =>
    have hplace : (s.built given).1 = given :=
      congrArg Prod.fst (IndexCells.forHandler_of_held hempty)
    rw [hplace]
    exact ⟨hgiven.built given, Or.inl ⟨rfl, rfl⟩⟩
  | true =>
    have hcells := IndexCells.forHandler_of_empty hempty
    have hplace : (s.built given).1 = s.indexes.length := congrArg Prod.fst hcells
    have hindexes : (s.built given).2.indexes = s.indexes ++ [.empty] := congrArg Prod.snd hcells
    rw [hplace]
    refine ⟨⟨by simp [hindexes], hgiven.distinct⟩, Or.inr ⟨rfl, rfl, ?_⟩⟩
    rw [index, hindexes, IndexCells.read, List.getD_eq_getElem?_getD, List.getElem?_concat_length]
    rfl

theorem built_eq_given_iff (hgiven : s.Placed given) :
    (s.built given).1 = given ↔ (s.index given).isKnownEmpty = false := by
  obtain ⟨-, ⟨hheld, hplace⟩ | ⟨hempty, hplace, -⟩⟩ := built_cases hgiven
  · exact iff_of_true hplace hheld
  · exact iff_of_false (hplace ▸ hgiven.inRange.ne') (by simp [hempty])

/-- A handler that does not use the index that it is given has one in memory. -/
theorem shared?_built (hgiven : s.Placed given) (hne : (s.built given).1 ≠ given) :
    ((s.built given).2.index (s.built given).1).shared? = none := by
  obtain ⟨-, ⟨-, hplace⟩ | ⟨-, -, hmemory⟩⟩ := built_cases hgiven
  · exact absurd hplace hne
  · exact hmemory

/-- Handlers that are built over an index use the same one exactly if both use that one. -/
theorem built_eq_built_iff (hgiven : s.Placed given) (steps : List Step) :
    (s.built given).1 = (((s.built given).2.stepAll steps).built given).1 ↔
      (s.built given).1 = given ∧ (((s.built given).2.stepAll steps).built given).1 = given := by
  obtain ⟨hfirst, -⟩ := built_cases hgiven
  have hlater := (hgiven.built given).stepAll steps
  constructor
  · intro hsame
    obtain ⟨-, ⟨-, hplace⟩ | ⟨-, hplace, -⟩⟩ := built_cases hlater
    · exact ⟨hsame.trans hplace, hplace⟩
    · -- a new place is not the one of a handler that is there
      exact absurd (hsame.trans hplace) (hfirst.stepAll steps).inRange.ne
  · rintro ⟨hplace, hplace'⟩
    exact hplace.trans hplace'.symm

/-- **A handler has the entries of the index that it is given exactly if that was not known to hold
    nothing**, and two handlers that are built over an index, at any moments, have the same entries
    exactly if it was so for both. -/
theorem joined_built_iff (hgiven : s.Placed given) :
    ((s.built given).2.Joined (s.built given).1 given ↔ (s.index given).isKnownEmpty = false)
      ∧ ∀ steps later, (s.built given).2.stepAll steps = later →
        ((later.built given).2.Joined (s.built given).1 (later.built given).1 ↔
          (s.index given).isKnownEmpty = false ∧ (later.index given).isKnownEmpty = false) := by
  obtain ⟨hfirst, -⟩ := built_cases hgiven
  have hbuilt : (s.built given).2.Placed given := hgiven.built given
  constructor
  · rw [joined_iff hfirst hbuilt fun hne => Or.inl (shared?_built hgiven hne)]
    exact built_eq_given_iff hgiven
  · rintro steps later rfl
    have hlater : ((s.built given).2.stepAll steps).Placed given := hbuilt.stepAll steps
    have hfirst' := hfirst.stepAll steps
    obtain ⟨hsecond, -⟩ := built_cases hlater
    rw [joined_iff (hfirst'.built given) hsecond, built_eq_built_iff hgiven,
      built_eq_given_iff hgiven, built_eq_given_iff hlater]
    intro hne
    by_cases hplace : (s.built given).1 = given
    · have hplace' := fun hsame => hne ((built_eq_built_iff hgiven steps).2 ⟨hplace, hsame⟩)
      exact Or.inr (shared?_built hlater hplace')
    · -- the index of the first handler is in memory whatever happened since
      left
      rw [← shared?_built hgiven hplace, ← shared?_stepAll hfirst steps]
      exact (index_step hfirst' _).1

/-- A site the index of which has an entry. -/
def entered : Sessions := { visited with indexes := [.memory [("q", "a")]] }

/-- The handler that is built while there is an entry uses the index, and the one that is built when
    it was removed does not. -/
theorem joined_built_entered :
    entered.Placed 0 ∧ (entered.built 0).2.Joined (entered.built 0).1 0
      ∧ ¬ (((entered.built 0).2.stepAll [.use 0 (.remove "q")]).built 0).2.Joined
        (entered.built 0).1 (((entered.built 0).2.stepAll [.use 0 (.remove "q")]).built 0).1 := by
  have hplaced : entered.Placed 0 :=
    ⟨by decide, by simp [SessionStore.Distinct, Entries.keys, entered, visited]⟩
  obtain ⟨hone, htwo⟩ := joined_built_iff hplaced
  refine ⟨hplaced, hone.2 (by decide), fun hjoined => ?_⟩
  obtain ⟨-, hheld⟩ := (htwo [.use 0 (.remove "q")] _ rfl).1 hjoined
  exact absurd hheld (by decide)

/-- A session that is recorded through a handler is not found in an index that was given without
    entries. -/
theorem not_joined_built_visited : ¬ (visited.built 0).2.Joined (visited.built 0).1 0 := by
  intro hjoined
  have hfiles : (visited.built 0).2.FilesIn (visited.built 0).1 (.handle (.record visitor "p"))
      "p" "a" := ⟨rfl, Or.inr ⟨_, rfl, visitor, rfl, by decide, by decide⟩⟩
  obtain ⟨hfound, -⟩ := hjoined.1 [] _ [] "p" "a" hfiles (by simp)
  exact absurd hfound (by decide)

end Sessions

end Logout

end RelyingParty
