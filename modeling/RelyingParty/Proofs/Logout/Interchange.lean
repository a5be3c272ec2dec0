import RelyingParty.Proofs.Logout.Operations
import RelyingParty.Proofs.Session.Keys

set_option autoImplicit false

/-! # Indexes that stand for each other

A handler does the same over an index in memory and over a shared one without a time of expiry:
every operation has the same result, and leaves the same sessions and response headers, even if
indexes with other name spaces change the shared store in between.
`observe_memory_eq_observe_shared` says so of all runs in which names have different digests.

Names have to be text. A logout that names a session by broken text does nothing over an index in
memory and comes to a fault over a shared one, which has no key for it. -/

namespace RelyingParty

/-! ## Changes by other indexes -/

namespace SharedIndex

/-- What is changed in a shared store through an index. -/
inductive Change where
  | put (sid id : String)
  | remove (sid : String)

/-- The store after a change; one that is refused leaves it as it is. -/
def change (i : SharedIndex) (store : KeyValueStore) : Change → KeyValueStore
  | .put sid id => (i.put store sid id).toOption.getD store
  | .remove sid => i.remove store sid

variable {index other : SharedIndex} {store : KeyValueStore}

/-- A change concerns one key of the index that makes it. -/
theorem change_cases (other : SharedIndex) (store : KeyValueStore) (c : Change) :
    other.change store c = store
      ∨ (∃ sid entry, other.change store c = store.insert (other.key sid) entry)
      ∨ ∃ sid, other.change store c = store.erase (other.key sid) := by
  cases c with
  | put sid id =>
    rw [change]
    cases hput : other.put store sid id with
    | error cause => exact Or.inl rfl
    | ok store' =>
      obtain ⟨expires, rfl⟩ := put_eq_ok hput
      exact Or.inr (Or.inl ⟨sid, _, rfl⟩)
  | remove sid => exact Or.inr (Or.inr ⟨sid, rfl⟩)

theorem nodup_keys_change (h : store.keys.Nodup) (c : Change) :
    (other.change store c).keys.Nodup := by
  rcases change_cases other store c with hsame | ⟨sid, entry, hinsert⟩ | ⟨sid, herase⟩
  · rw [hsame]
    exact h
  · rw [hinsert]
    exact Entries.nodup_keys_insert h _ _
  · rw [herase]
    exact Entries.nodup_keys_erase h _

/-- An index with another name space changes nothing that an index finds. -/
theorem get?_change (h : other.space.display ≠ index.space.display) (c : Change) (sid : String) :
    index.get? (other.change store c) sid = index.get? store sid := by
  have hkey (name : String) : other.key name ≠ index.key sid := fun hsame =>
    h (key_eq_key_iff.1 hsame).1
  refine congrArg (Option.map _) ?_
  rcases change_cases other store c with hsame | ⟨name, entry, hinsert⟩ | ⟨name, herase⟩
  · rw [hsame]
  · rw [hinsert, Entries.get?_insert, beq_eq_false_iff_ne.2 (hkey name)]
    rfl
  · rw [herase, Entries.get?_erase_of_ne store (hkey name)]

end SharedIndex

/-! ## Indexes that find the same -/

namespace SessionIndex

/-- An index after another one changed the shared store. -/
def changedBy (i : SessionIndex) (other : SharedIndex) (c : SharedIndex.Change) : SessionIndex :=
  match i with
  | .memory sessions => .memory sessions
  | .shared index store => .shared index (other.change store c)

variable {i j : SessionIndex} {index other : SharedIndex} {names : Set String} {sid id : String}
  {v : Value}

/-- An index in memory and a shared one tell some names apart, and find the same under them. -/
structure Interchangeable (i j : SessionIndex) (index : SharedIndex) (names : Set String) :
    Prop where
  memory : i.shared? = none
  shared : j.shared? = some index
  apart : i.TellsApart names
  apart' : j.TellsApart names
  agree : ∀ sid ∈ names, i.get? sid = j.get? sid

namespace Interchangeable

theorem put (h : i.Interchangeable j index names) (hsid : sid ∈ names) (id : String) :
    ∃ i' j', i.put sid id = .ok i' ∧ j.put sid id = .ok j' ∧ i'.Interchangeable j' index names := by
  obtain ⟨i', hi, hapart, hget⟩ := h.apart.put hsid id
  obtain ⟨j', hj, hapart', hget'⟩ := h.apart'.put hsid id
  refine ⟨i', j', hi, hj, (shared?_put hi).trans h.memory, (shared?_put hj).trans h.shared, hapart,
    hapart', fun other hother => ?_⟩
  rw [hget other hother, hget' other hother, h.agree other hother]

theorem remove (h : i.Interchangeable j index names) (hsid : sid ∈ names) :
    (i.remove sid).Interchangeable (j.remove sid) index names where
  memory := (shared?_remove i sid).trans h.memory
  shared := (shared?_remove j sid).trans h.shared
  apart := h.apart.remove sid
  apart' := h.apart'.remove sid
  agree other hother := by
    rw [h.apart.get?_remove hsid hother, h.apart'.get?_remove hsid hother, h.agree other hother]

theorem forgotten (h : i.Interchangeable j index names)
    (hv : ∀ name, named? v = some name → name ∈ names) :
    (i.forgotten v).Interchangeable (j.forgotten v) index names := by
  unfold SessionIndex.forgotten
  cases hname : named? v with
  | none => exact h
  | some name => exact h.remove (hv name hname)

theorem found?_eq (h : i.Interchangeable j index names)
    (hv : ∀ name, named? v = some name → name ∈ names) : i.found? v = j.found? v := by
  unfold found?
  cases hname : named? v with
  | none => rfl
  | some name => exact h.agree name (hv name hname)

/-- Other indexes do not come between them. -/
theorem changedBy (h : i.Interchangeable j index names)
    (hother : other.space.display ≠ index.space.display) (c : SharedIndex.Change) :
    (i.changedBy other c).Interchangeable (j.changedBy other c) index names := by
  cases i with
  | shared _ _ => exact absurd h.memory (by simp [shared?])
  | memory sessions =>
    cases j with
    | memory _ => exact absurd h.shared (by simp [shared?])
    | shared index' store =>
      obtain rfl := Option.some.inj h.shared
      refine ⟨rfl, rfl, h.apart, ⟨?_, h.apart'.accepts, h.apart'.injective⟩, fun sid hsid => ?_⟩
      · exact SharedIndex.nodup_keys_change h.apart'.distinct c
      · exact (h.agree sid hsid).trans (SharedIndex.get?_change hother c sid).symm

end Interchangeable

end SessionIndex

namespace Logout

/-! ## Runs -/

/-- An operation names sessions of the provider by some names, or does not name one. -/
def Operation.Uses (names : Set String) : Operation → Prop
  | .handle (.record _ sid) | .put sid _ | .get sid | .remove sid => sid ∈ names
  | .handle (.front _ v) | .handle (.back v) =>
    ∃ sid, v = Value.ofText? sid ∧ ∀ name, sid = some name → name ∈ names

/-- A handler or its index is used, or another index changes the shared store. -/
inductive Move where
  | own (op : Operation)
  | foreign (other : SharedIndex) (c : SharedIndex.Change)

/-- What may come to pass with a shared index: it is used for some names, and the other indexes have
    other name spaces. -/
def Move.Suits (index : SharedIndex) (names : Set String) : Move → Prop
  | .own op => op.Uses names
  | .foreign other _ => other.space.display ≠ index.space.display

/-- What is seen of an operation. -/
structure Seen where
  result : Except Fault (Option String)
  store : SessionStore
  headers : Option (Entries String String)

namespace Sessions

def Performed.seen (p : Performed) : Seen :=
  ⟨p.result, p.sessions.store, p.exchange.map (·.responseHeaders)⟩

/-- The sessions after another index changed the shared store. -/
def changedBy (s : Sessions) (other : SharedIndex) (c : SharedIndex.Change) : Sessions :=
  { s with indexes := s.indexes.map (·.changedBy other c) }

/-- What is seen of the operations in a run, one after the other. -/
def observe : Sessions → List Move → List Seen
  | _, [] => []
  | s, .own op :: rest => (s.perform op).seen :: observe (s.perform op).sessions rest
  | s, .foreign other c :: rest => observe (s.changedBy other c) rest

/-- A site with one index. -/
def ofIndex (store : SessionStore) (i : SessionIndex) : Sessions := ⟨store, [i], .indexed 0⟩

variable {store : SessionStore} {i j : SessionIndex} {index : SharedIndex} {names : Set String}

theorem name_mem_of_ofText? {sid : Option String} (h : ∀ name, sid = some name → name ∈ names)
    (name : String) (hname : SessionIndex.named? (Value.ofText? sid) = some name) :
    name ∈ names := by
  refine h name ?_
  obtain ⟨htext, -⟩ := SessionIndex.named?_eq_some_iff.1 hname
  cases sid with
  | none => exact absurd htext (by simp [Value.ofText?])
  | some sid => exact congrArg some (Value.text.inj htext)

/-- An operation does the same over either index, and leaves them as they have to be. -/
theorem perform_ofIndex (store : SessionStore) (h : i.Interchangeable j index names)
    {op : Operation} (hop : op.Uses names) :
    ∃ r t e i' j', (ofIndex store i).perform op = ⟨r, ofIndex t i', e⟩
      ∧ (ofIndex store j).perform op = ⟨r, ofIndex t j', e⟩
      ∧ i'.Interchangeable j' index names := by
  have hi : (ofIndex store i).handler = .indexed 0 := rfl
  have hj : (ofIndex store j).handler = .indexed 0 := rfl
  have hget (sid : String) (hsid : sid ∈ names) :
      ((ofIndex store j).index 0).get? sid = i.get? sid := (h.agree sid hsid).symm
  cases op with
  | handle a =>
    cases a with
    | record e sid =>
      by_cases hempty : sid = ""
      · subst hempty
        exact ⟨_, _, _, _, _, act_record_empty hi, act_record_empty hj, h⟩
      · obtain ⟨i', j', hput, hput', h'⟩ := h.put hop (store.resolveOrStart e).1
        exact ⟨_, _, _, _, _, act_record_of_ok hi hempty hput, act_record_of_ok hj hempty hput',
          h'⟩
    | front e v =>
      obtain ⟨sid, rfl, hsid⟩ := hop
      exact ⟨_, _, _, _, _, act_front_ofText? hi e sid, act_front_ofText? hj e sid,
        h.forgotten (name_mem_of_ofText? hsid)⟩
    | back v =>
      obtain ⟨sid, rfl, hsid⟩ := hop
      have hnames := name_mem_of_ofText? hsid
      have hback := act_back_ofText? hj sid
      -- both find the same session to end
      have hfound : ((ofIndex store j).index 0).found? (Value.ofText? sid)
          = i.found? (Value.ofText? sid) := (h.found?_eq hnames).symm
      rw [hfound] at hback
      exact ⟨_, _, _, _, _, act_back_ofText? hi sid, hback, h.forgotten hnames⟩
  | put sid id =>
    obtain ⟨i', j', hput, hput', h'⟩ := h.put hop id
    exact ⟨_, _, _, _, _, perform_put hi hput, perform_put hj hput', h'⟩
  | get sid =>
    have hget' := perform_get hj sid
    rw [hget sid hop] at hget'
    exact ⟨_, _, _, _, _, perform_get hi sid, hget', h⟩
  | remove sid =>
    have hremove := perform_remove hj sid
    rw [hget sid hop] at hremove
    exact ⟨_, _, _, _, _, perform_remove hi sid, hremove, h.remove hop⟩

theorem observe_ofIndex (h : i.Interchangeable j index names) {moves : List Move}
    (hmoves : ∀ m ∈ moves, m.Suits index names) :
    (ofIndex store i).observe moves = (ofIndex store j).observe moves := by
  induction moves generalizing store i j with
  | nil => rfl
  | cons m rest ih =>
    obtain ⟨hm, hrest⟩ := List.forall_mem_cons.1 hmoves
    cases m with
    | own op =>
      obtain ⟨r, t, e, i', j', hi, hj, h'⟩ := perform_ofIndex store h hm
      rw [observe, observe, hi, hj]
      exact congrArg (List.cons _) (ih h' hrest)
    | foreign other c => exact ih (h.changedBy hm c) hrest

/-- **A handler over an index in memory and one over a shared index do the same**, whatever is done,
    if both find the same at first, the names used have different digests, and other indexes that
    use the shared store have other name spaces. -/
theorem observe_memory_eq_observe_shared {entries : Entries String String} {shared : KeyValueStore}
    {moves : List Move} (hentries : entries.keys.Nodup) (hshared : shared.keys.Nodup)
    (httl : index.ttl = .null)
    (hagree : ∀ sid ∈ names, entries.get? sid = index.get? shared sid)
    (hdigests : Set.InjOn SharedIndex.digestOf names)
    (hmoves : ∀ m ∈ moves, m.Suits index names) :
    (ofIndex store (.memory entries)).observe moves
      = (ofIndex store (.shared index shared)).observe moves :=
  observe_ofIndex ⟨rfl, rfl, SessionIndex.tellsApart_memory hentries,
    SharedIndex.tellsApart_shared httl hshared hdigests, hagree⟩ hmoves

/-! ## A run -/

/-- A store without sessions. -/
def noSessions : SessionStore := SessionStore.empty "session" ⟨toString, 0⟩

/-- A shared index as it is unless another name space is given. -/
def plainIndex : SharedIndex := ⟨SharedIndex.defaultSpace, .null⟩

/-- An index the name space of which starts with that of the plain one. -/
def longerIndex : SharedIndex := ⟨.text "oidc_rp:sid:p", .int 60⟩

/-- A session is recorded and logged out, while the other index has an entry under the same name. -/
def exampleMoves : List Move :=
  [.own (.handle (.record {} "p")), .foreign longerIndex (.put "p" "x"), .own (.get "q"),
    .foreign longerIndex (.remove "p"), .own (.handle (.back (.text "p")))]

set_option maxRecDepth 4000 in
theorem digestOf_ne : SharedIndex.digestOf "p" ≠ SharedIndex.digestOf "q" := by decide +kernel

theorem observe_exampleMoves :
    (Entries.keys ([] : Entries String String)).Nodup
      ∧ (Entries.keys ([] : KeyValueStore)).Nodup ∧ plainIndex.ttl = .null
      ∧ (∀ sid ∈ ({"p", "q"} : Set String),
        Entries.get? ([] : Entries String String) sid = plainIndex.get? [] sid)
      ∧ Set.InjOn SharedIndex.digestOf {"p", "q"}
      ∧ (∀ m ∈ exampleMoves, m.Suits plainIndex {"p", "q"})
      ∧ (ofIndex noSessions (.memory [])).observe exampleMoves
        = (ofIndex noSessions (.shared plainIndex [])).observe exampleMoves := by
  have hdigests : Set.InjOn SharedIndex.digestOf {"p", "q"} := by
    rintro a (rfl | rfl) b (rfl | rfl) h
    · rfl
    · exact absurd h digestOf_ne
    · exact absurd h.symm digestOf_ne
    · rfl
  have hmoves : ∀ m ∈ exampleMoves, m.Suits plainIndex {"p", "q"} := by
    have hspace : longerIndex.space.display ≠ plainIndex.space.display := by decide
    have hback : (Operation.handle (.back (.text "p"))).Uses {"p", "q"} := ⟨some "p", rfl, by simp⟩
    simp only [exampleMoves, List.forall_mem_cons]
    exact ⟨Or.inl rfl, hspace, Or.inr rfl, hspace, hback, by simp⟩
  exact ⟨List.nodup_nil, List.nodup_nil, rfl, fun _ _ => rfl, hdigests, hmoves,
    observe_memory_eq_observe_shared List.nodup_nil List.nodup_nil rfl (fun _ _ => rfl) hdigests
      hmoves⟩

/-- Broken text tells the two apart. -/
theorem observe_brokenText_ne :
    (ofIndex noSessions (.memory [])).observe [.own (.handle (.back (.brokenText [0xD800])))]
      ≠ (ofIndex noSessions (.shared plainIndex [])).observe
        [.own (.handle (.back (.brokenText [0xD800])))] := by
  intro hsame
  have hresults := congrArg (List.map Seen.result) hsame
  have hdone : Except.ok none = Except.error Fault.notEncodable := (List.cons.inj hresults).1
  exact absurd hdone (by simp)

end Sessions

end Logout

end RelyingParty
