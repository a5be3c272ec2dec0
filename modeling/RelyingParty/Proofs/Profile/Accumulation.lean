import Mathlib.Data.List.DropRight
import Mathlib.Data.List.ReduceOption
import RelyingParty.Proofs.Profile.Changes
import RelyingParty.Proofs.Value.Equivalence

set_option autoImplicit false

/-! # What a run of changes leaves under a key

The history of a key is what was added under it and when it was removed; what is refused, and null,
is no part of it. The history alone tells what is stored: `meaning`. Without merging it is the last
thing added. With merging it is the first of the sequences that end the history, followed by the
elements of the others that none before them is the same as.

A new element is compared only with the elements that are kept. That it may as well be compared with
all that came before it, kept or not, is because equality is an equivalence:
`mergeElements_eq_append`. -/

namespace RelyingParty

/-! ## The end of a list -/

/-- What comes after the last nothing. -/
def closing {α : Type} (xs : List (Option α)) : List α := (xs.rtakeWhile Option.isSome).reduceOption

section Closing

variable {α : Type} (xs : List (Option α))

@[simp] theorem closing_nil : closing ([] : List (Option α)) = [] := by
  rw [closing, List.rtakeWhile_nil, List.reduceOption_nil]

@[simp] theorem closing_append_none : closing (xs ++ [none]) = [] := by
  rw [closing, List.rtakeWhile_concat_neg _ _ _ (by simp), List.reduceOption_nil]

@[simp] theorem closing_append_some (x : α) : closing (xs ++ [some x]) = closing xs ++ [x] := by
  rw [closing, List.rtakeWhile_concat_pos _ _ _ (by simp), List.reduceOption_append]
  rfl

variable {xs} in
theorem mem_of_mem_closing {x : α} (h : x ∈ closing xs) : some x ∈ xs := by
  rw [closing, List.reduceOption_mem_iff] at h
  exact (List.rtakeWhile_suffix _ _).subset h

end Closing

theorem Value.isExact_of_isText {key : Value} (h : key.isText = true) : Entries.IsExact key := by
  cases key with
  | text s => exact fun _ => Value.same_text_right_iff
  | brokenText points => exact fun _ => Value.same_brokenText_right_iff
  | _ => exact absurd h (by simp [Value.isText])

namespace Profile

/-! ## The elements of sequences that are merged -/

/-- The elements that none before them is the same as. -/
def firstOccurrences (before : List Value) : List Value → List Value
  | [] => []
  | v :: rest =>
    let later := firstOccurrences (before ++ [v]) rest
    if before.any (·.same v) then later else v :: later

/-- What is kept stands for all that came before. -/
def Represents (kept before : List Value) : Prop :=
  ∀ v : Value, v.IsProper → kept.any (·.same v) = before.any (·.same v)

variable {kept before added : List Value}

theorem mergeElements_cons (existing : List Value) (v : Value) (added : List Value) :
    mergeElements existing (v :: added)
      = mergeElements (if existing.any (·.same v) then existing else existing ++ [v]) added :=
  rfl

theorem mergeElements_append (existing added added' : List Value) :
    mergeElements existing (added ++ added')
      = mergeElements (mergeElements existing added) added' :=
  List.foldl_append

/-- An element that is left out is the same as one that is kept, and so is all that is the same. -/
theorem Represents.append {v : Value} (h : Represents kept before)
    (hkept : ∀ x ∈ kept, x.IsProper) (hv : v.IsProper) :
    Represents (if kept.any (·.same v) then kept else kept ++ [v]) (before ++ [v]) := by
  intro w hw
  have hbefore : (before ++ [v]).any (·.same w) = (kept.any (·.same w) || v.same w) := by
    rw [List.any_append, ← h w hw, List.any_cons, List.any_nil, Bool.or_false]
  rw [hbefore]
  split
  · next hany =>
    obtain ⟨x, hx, hxv⟩ := List.any_eq_true.1 hany
    by_cases hvw : v.same w = true
    · have hxw : x.same w = true := (hkept x hx).same_trans hv hw hxv hvw
      rw [List.any_eq_true.2 ⟨x, hx, hxw⟩, Bool.true_or]
    · rw [Bool.of_not_eq_true hvw, Bool.or_false]
  · rw [List.any_append, List.any_cons, List.any_nil, Bool.or_false]

theorem mergeElements_of_represents (h : Represents kept before) (hkept : ∀ x ∈ kept, x.IsProper)
    (hadded : ∀ x ∈ added, x.IsProper) :
    mergeElements kept added = kept ++ firstOccurrences before added := by
  induction added generalizing kept before with
  | nil => exact (List.append_nil kept).symm
  | cons v rest ih =>
    obtain ⟨hv, hrest⟩ := List.forall_mem_cons.1 hadded
    have hstep := h.append hkept hv
    rw [mergeElements_cons, firstOccurrences, ← h v hv]
    split
    · next hany =>
      rw [if_pos hany] at hstep
      exact ih hstep hkept hrest
    · next hnone =>
      rw [if_neg hnone] at hstep
      have hall : ∀ x ∈ kept ++ [v], x.IsProper := by
        intro x hx
        rcases List.mem_append.1 hx with hx | hx
        · exact hkept x hx
        · rw [List.mem_singleton.1 hx]
          exact hv
      rw [ih hstep hall hrest, List.append_assoc, List.singleton_append]

/-- **Merging adds the elements that none before them is the same as.** -/
theorem mergeElements_eq_append {existing : List Value} (hexisting : ∀ x ∈ existing, x.IsProper)
    (hadded : ∀ x ∈ added, x.IsProper) :
    mergeElements existing added = existing ++ firstOccurrences existing added :=
  mergeElements_of_represents (fun _ _ => rfl) hexisting hadded

/-- What is there stays there. -/
theorem prefix_mergeElements (existing added : List Value) :
    existing <+: mergeElements existing added := by
  induction added generalizing existing with
  | nil => exact List.prefix_refl _
  | cons v rest ih =>
    rw [mergeElements_cons]
    refine List.IsPrefix.trans ?_ (ih _)
    split
    · exact List.prefix_refl _
    · exact List.prefix_append _ _

theorem any_same_mergeElements {existing : List Value} (hadded : ∀ x ∈ added, x.IsProper) :
    ∀ x ∈ added, (mergeElements existing added).any (·.same x) = true := by
  induction added generalizing existing with
  | nil => simp
  | cons v rest ih =>
    obtain ⟨hv, hrest⟩ := List.forall_mem_cons.1 hadded
    rw [mergeElements_cons]
    refine List.forall_mem_cons.2 ⟨?_, ih hrest⟩
    have hthere : (if existing.any (·.same v) then existing else existing ++ [v]).any (·.same v)
        = true := by
      split
      · next hany => exact hany
      · rw [List.any_append, List.any_cons, hv.same_self, Bool.true_or, Bool.or_true]
    obtain ⟨x, hx, hxv⟩ := List.any_eq_true.1 hthere
    exact List.any_eq_true.2 ⟨x, (prefix_mergeElements _ rest).subset hx, hxv⟩

theorem mergeElements_eq_self {existing : List Value}
    (h : ∀ x ∈ added, existing.any (·.same x) = true) :
    mergeElements existing added = existing := by
  induction added with
  | nil => rfl
  | cons v rest ih =>
    obtain ⟨hv, hrest⟩ := List.forall_mem_cons.1 h
    rw [mergeElements_cons, if_pos hv]
    exact ih hrest

/-- A sequence that is merged a second time adds nothing. -/
theorem storedValue_storedValue {v : Value} (hv : v.sequence?.isSome = true)
    (hproper : ∀ xs, v.sequence? = some xs → ∀ x ∈ xs, x.IsProper) (existing : Option Value) :
    storedValue true (some (storedValue true existing v)) v = storedValue true existing v := by
  obtain ⟨added, hadded⟩ := Option.isSome_iff_exists.1 hv
  obtain ⟨kept, hkept, hall⟩ : ∃ kept, storedValue true existing v = .list kept
      ∧ ∀ x ∈ added, kept.any (·.same x) = true := by
    unfold storedValue
    rw [hadded]
    dsimp only
    split
    · next present _ => exact ⟨_, if_pos rfl, any_same_mergeElements (hproper added hadded)⟩
    · exact ⟨added, rfl, fun x hx =>
        List.any_eq_true.2 ⟨x, hx, (hproper added hadded x hx).same_self⟩⟩
  rw [hkept, storedValue, hadded]
  show (if true then Value.list (mergeElements kept added) else .list added) = .list kept
  rw [if_pos rfl, mergeElements_eq_self hall]

/-! ## What a history means -/

/-- A value as it is stored where there was none: a sequence as a list. -/
def asStored (v : Value) : Value :=
  match v.sequence? with
  | some xs => .list xs
  | none => v

/-- The sequences that end a history: those after the last removal and the last other value. -/
def closingSequences (history : List (Option Value)) : List (List Value) :=
  closing ((closing history).map Value.sequence?)

/-- The value that a history leaves. What counts is what was added after the last removal: the last
    of it, or all sequences that end it if they are merged. -/
def meaning (merges : Bool) (history : List (Option Value)) : Option Value :=
  match merges, closingSequences history with
  | true, first :: later => some (.list (first ++ firstOccurrences first later.flatten))
  | _, _ => (closing history).getLast?.map asStored

/-- One more event of a history, and the value that was stored before it. -/
def advance (merges : Bool) (stored : Option Value) : Option Value → Option Value
  | none => none
  | some v => some (storedValue merges stored v)

/-- Whatever is added is proper. -/
def IsProperHistory (history : List (Option Value)) : Prop := ∀ v, some v ∈ history → v.IsProper

theorem proper_of_sequence? {v : Value} (hv : v.IsProper) {xs : List Value}
    (h : v.sequence? = some xs) : ∀ x ∈ xs, x.IsProper := by
  cases hv with
  | list hxs => exact Option.some.inj h ▸ hxs
  | tuple hxs => exact Option.some.inj h ▸ hxs
  | set hxs => exact Option.some.inj h ▸ hxs
  | frozenSet hxs => exact Option.some.inj h ▸ hxs
  | _ => exact absurd h (by simp [Value.sequence?])

section Meaning

variable {history : List (Option Value)}

theorem meaning_false (history : List (Option Value)) :
    meaning false history = (closing history).getLast?.map asStored := by
  unfold meaning
  split
  · next heq _ => exact absurd heq Bool.false_ne_true
  · rfl

theorem meaning_of_nil {merges : Bool} (h : closingSequences history = []) :
    meaning merges history = (closing history).getLast?.map asStored := by
  unfold meaning
  rw [h]
  cases merges <;> rfl

theorem meaning_of_cons {first : List Value} {later : List (List Value)}
    (h : closingSequences history = first :: later) :
    meaning true history = some (.list (first ++ firstOccurrences first later.flatten)) := by
  unfold meaning
  rw [h]

theorem closingSequences_append_some (history : List (Option Value)) (v : Value) :
    closingSequences (history ++ [some v])
      = match v.sequence? with
        | some xs => closingSequences history ++ [xs]
        | none => [] := by
  rw [closingSequences, closing_append_some, List.map_append, List.map_singleton]
  cases v.sequence? with
  | none => exact closing_append_none _
  | some xs => exact closing_append_some _ xs

theorem proper_of_mem_closingSequences (hhistory : IsProperHistory history) :
    ∀ xs ∈ closingSequences history, ∀ x ∈ xs, x.IsProper := by
  intro xs hxs
  obtain ⟨v, hv, hvxs⟩ := List.mem_map.1 (mem_of_mem_closing hxs)
  exact proper_of_sequence? (hhistory v (mem_of_mem_closing hv)) hvxs

/-- If no sequence ends the history, what is stored is none. -/
theorem sequence?_of_closingSequences_eq_nil (h : closingSequences history = []) :
    ((closing history).getLast?.map asStored).bind Value.sequence? = none := by
  rw [closingSequences] at h
  rcases List.eq_nil_or_concat (closing history) with hadds | ⟨earlier, v, hadds⟩
  · rw [hadds]
    rfl
  · rw [hadds, List.concat_eq_append] at h ⊢
    have hv : v.sequence? = none := by
      rw [List.map_append, List.map_singleton] at h
      cases hv : v.sequence? with
      | none => rfl
      | some xs => simp [hv] at h
    simp [asStored, hv]

theorem meaning_append_other {merges : Bool} {v : Value} (hv : v.sequence? = none) :
    meaning merges (history ++ [some v]) = some v := by
  have hnone : closingSequences (history ++ [some v]) = [] := by
    rw [closingSequences_append_some, hv]
  rw [meaning_of_nil hnone, closing_append_some]
  simp [asStored, hv]

/-- A sequence that comes last is merged with those before it. -/
theorem meaning_append_sequence (hhistory : IsProperHistory history) {v : Value} (hv : v.IsProper)
    {added : List Value} (hadded : v.sequence? = some added) :
    meaning true (history ++ [some v])
      = some (storedValue true (meaning true history) v) := by
  have hends : closingSequences (history ++ [some v]) = closingSequences history ++ [added] := by
    rw [closingSequences_append_some, hadded]
  cases hsequences : closingSequences history with
  | nil =>
    have hbefore : (meaning true history).bind Value.sequence? = none := by
      rw [meaning_of_nil hsequences]
      exact sequence?_of_closingSequences_eq_nil hsequences
    rw [hsequences, List.nil_append] at hends
    rw [meaning_of_cons hends, storedValue, hadded]
    simp [hbefore, firstOccurrences]
  | cons first later =>
    obtain ⟨hfirst, hlater⟩ :=
      List.forall_mem_cons.1 (hsequences ▸ proper_of_mem_closingSequences hhistory)
    have hflat : ∀ x ∈ later.flatten, x.IsProper := by
      intro x hx
      obtain ⟨xs, hxs, hmem⟩ := List.mem_flatten.1 hx
      exact hlater xs hxs x hmem
    have hall : ∀ x ∈ later.flatten ++ added, x.IsProper :=
      List.forall_mem_append.2 ⟨hflat, proper_of_sequence? hv hadded⟩
    rw [hsequences, List.cons_append] at hends
    have hbefore : meaning true history = some (.list (mergeElements first later.flatten)) := by
      rw [meaning_of_cons hsequences, mergeElements_eq_append hfirst hflat]
    have hafter : meaning true (history ++ [some v])
        = some (.list (mergeElements first (later.flatten ++ added))) := by
      rw [meaning_of_cons hends, mergeElements_eq_append hfirst hall, List.flatten_append,
        List.flatten_singleton]
    rw [hafter, hbefore, mergeElements_append, storedValue, hadded]
    rfl

theorem storedValue_false (existing : Option Value) (v : Value) :
    storedValue false existing v = asStored v := by
  unfold storedValue asStored
  split
  · next h => rw [h]
  · next h =>
    rw [h]
    split <;> rfl

/-- **One more event changes the meaning of a history as it changes what is stored.** -/
theorem meaning_append_singleton {merges : Bool} (hhistory : IsProperHistory history)
    {event : Option Value} (hevent : ∀ v, event = some v → v.IsProper) :
    meaning merges (history ++ [event]) = advance merges (meaning merges history) event := by
  cases event with
  | none =>
    have hnone : closingSequences (history ++ [none]) = [] := by
      rw [closingSequences, closing_append_none, List.map_nil, closing_nil]
    rw [meaning_of_nil hnone, closing_append_none]
    rfl
  | some v =>
    cases merges with
    | false =>
      rw [meaning_false, closing_append_some, List.getLast?_concat, advance, storedValue_false]
      rfl
    | true =>
      cases hv : v.sequence? with
      | none =>
        rw [meaning_append_other hv, advance, storedValue, hv]
      | some added => exact meaning_append_sequence hhistory (hevent v rfl) hv

end Meaning

/-- **What a run of events leaves is what its history means.** -/
theorem foldl_advance_eq_meaning {merges : Bool} {history : List (Option Value)}
    (hhistory : IsProperHistory history) :
    history.foldl (advance merges) none = meaning merges history := by
  induction history using List.reverseRecOn with
  | nil =>
    have hnone : closingSequences [] = [] := by
      rw [closingSequences, closing_nil, List.map_nil, closing_nil]
    rw [meaning_of_nil hnone, closing_nil]
    rfl
  | append_singleton earlier event ih =>
    have hearlier : IsProperHistory earlier := fun v hv => hhistory v (List.mem_append_left _ hv)
    have hevent : ∀ v, event = some v → v.IsProper := by
      rintro v rfl
      exact hhistory v (List.mem_append_right _ (List.mem_singleton_self _))
    rw [List.foldl_append, ih hearlier, meaning_append_singleton hearlier hevent]
    rfl

/-! ## Stores -/

/-- A store comes from another one by events, of which each key has its own. -/
structure Follows (merges : Bool) (facts : FactStore) (events : Value → List (Option Value))
    (after : FactStore) : Prop where
  nodup : facts.keys.Nodup → after.keys.Nodup
  get? : facts.keys.Nodup → ∀ key : Value, key.isText = true →
    after.get? key = (events key).foldl (advance merges) (facts.get? key)

section Stores

variable {merges : Bool} {facts between after : FactStore}
  {events events' : Value → List (Option Value)}

theorem Follows.nothing (merges : Bool) (facts : FactStore) :
    Follows merges facts (fun _ => []) facts where
  nodup := fun hfacts => hfacts
  get? := fun _ _ _ => rfl

theorem Follows.trans (h : Follows merges facts events between)
    (h' : Follows merges between events' after) :
    Follows merges facts (fun key => events key ++ events' key) after where
  nodup := fun hfacts => h'.nodup (h.nodup hfacts)
  get? := by
    intro hfacts key hkey
    rw [h'.get? (h.nodup hfacts) key hkey, h.get? hfacts key hkey, List.foldl_append]

/-- What the entries of a mapping add under a key. -/
def offered (entries : List (Value × Value)) (key : Value) : List (Option Value) :=
  (entries.filter fun e => e.1.same key && !e.2.isNull).map fun e => some e.2

theorem exists_addFact {key : Value} (hkey : key.isText = true) (hvisible : key.isBlank = false)
    (value : Value) : ∃ after, addFact merges facts key value = .ok after := by
  rw [addFact, hvisible, Value.hashable_of_isText hkey]
  cases value.isNull <;> simp

theorem follows_addFact {key value : Value} (hkey : key.isText = true)
    (hvisible : key.isBlank = false) (hafter : addFact merges facts key value = .ok after) :
    Follows merges facts (offered [(key, value)]) after := by
  rw [addFact, hvisible, Value.hashable_of_isText hkey, if_neg Bool.false_ne_true] at hafter
  cases hnull : value.isNull with
  | true =>
    rw [hnull, if_pos rfl] at hafter
    have hnothing : offered [(key, value)] = fun _ => [] := by
      funext other
      simp [offered, hnull]
    rw [hnothing, ← Except.ok.inj hafter]
    exact .nothing merges facts
  | false =>
    rw [hnull] at hafter
    have hexact := Value.isExact_of_isText hkey
    rw [← Except.ok.inj hafter]
    refine ⟨fun hfacts => ?_, fun _ other hother => ?_⟩
    · exact Entries.nodup_keys_insert_of_self hfacts ((hexact key).2 rfl) _
    · rw [Entries.get?_insert_of_exact facts hexact (Value.isExact_of_isText hother)]
      by_cases hsame : (key == other) = true
      · obtain rfl := (Value.isExact_of_isText hother key).1 hsame
        have hself : key.same key = true := hsame
        simp [offered, hself, hnull, hsame, advance]
      · have hdiffers : key.same other = false := Bool.of_not_eq_true hsame
        simp [offered, hdiffers, hsame]

/-- Facts under visible texts are all added. -/
theorem follows_addFacts {entries : List (Value × Value)}
    (hkeys : ∀ e ∈ entries, e.1.isText = true) (hvisible : ∀ e ∈ entries, e.1.isBlank = false) :
    Follows merges facts (offered entries) (addFacts merges facts entries).2 := by
  induction entries generalizing facts with
  | nil => exact .nothing merges facts
  | cons e rest ih =>
    obtain ⟨hkey, hkeys⟩ := List.forall_mem_cons.1 hkeys
    obtain ⟨hfirst, hvisible⟩ := List.forall_mem_cons.1 hvisible
    obtain ⟨between, hbetween⟩ := exists_addFact hkey hfirst e.2
    have hsplit : offered (e :: rest)
        = fun key => offered [(e.1, e.2)] key ++ offered rest key := by
      funext key
      rw [offered, offered, offered, ← List.map_append, ← List.filter_append]
      rfl
    rw [addFacts, hbetween, hsplit]
    exact (follows_addFact hkey hfirst hbetween).trans (ih hkeys hvisible)

theorem follows_erase {key : Value} (hkey : key.isText = true) :
    Follows merges facts (fun other => if key.same other then [none] else [])
      (facts.erase key) where
  nodup := fun hfacts => Entries.nodup_keys_erase hfacts key
  get? := by
    intro hfacts other hother
    rw [Entries.get?_erase_of_exact hfacts (Value.isExact_of_isText hkey)
      (Value.isExact_of_isText hother)]
    by_cases hsame : (key == other) = true
    · have hvalue : key.same other = true := hsame
      rw [if_pos hsame, if_pos hvalue]
      rfl
    · have hvalue : ¬ key.same other = true := hsame
      rw [if_neg hsame, if_neg hvalue]
      rfl

end Stores

/-! ## Changes -/

namespace Change

/-- Whether a change names a key of a store. -/
def names (k : FactKind) (key : Value) : Change → Bool
  | .add k' key' _ | .remove k' key' => k' == k && key'.same key
  | .addAll k' (.dict entries) => k' == k && entries.any (·.1.same key)
  | _ => false

/-- What a change does under a key of a store: what it adds, unless it is refused, or that it
    removes the key. -/
def events (k : FactKind) (key : Value) : Change → List (Option Value)
  | .add k' key' v => if k' = k ∧ key'.isBlank = false then offered [(key', v)] key else []
  | .addAll k' facts => if k' = k then offered ((factsOf facts).toOption.getD []) key else []
  | .remove k' key' => if k' = k ∧ key'.same key = true then [none] else []
  | _ => []

/-- A change with texts for keys, and proper values. -/
def IsOrdinary : Change → Prop
  | .add _ key v => key.isText = true ∧ v.IsProper
  | .addAll _ (.dict entries) => ∀ e ∈ entries, e.1.isText = true ∧ e.2.IsProper
  | .remove _ key => key.isText = true
  | _ => True

end Change

/-- What a run of changes did under a key of a store. Only changes that name the key count. -/
def historyOf (k : FactKind) (key : Value) (changes : List Change) : List (Option Value) :=
  (changes.filter (·.names k key)).flatMap (·.events k key)

theorem eq_dict_of_factsOf {facts : Value} {entries : List (Value × Value)}
    (h : factsOf facts = .ok entries) : facts = .dict entries := by
  unfold factsOf at h
  split at h
  · exact absurd h (by simp)
  · split at h
    · obtain ⟨_, -, rfl⟩ := map_eq_ok_iff.1 h
      rfl
    · split at h
      · exact absurd h (by simp)
      · split at h <;> exact absurd h (by simp)

variable {k : FactKind} {key : Value} {c : Change} {changes : List Change}

theorem offered_of_not_any {entries : List (Value × Value)}
    (h : entries.any (·.1.same key) = false) : offered entries key = [] := by
  have hnone : entries.filter (fun e => e.1.same key && !e.2.isNull) = [] := by
    refine List.filter_eq_nil_iff.2 fun e he hsame => ?_
    have hother := List.any_eq_false.1 h e he
    exact hother (Bool.and_eq_true_iff.1 hsame).1
  rw [offered, hnone, List.map_nil]

/-- A change does nothing under a key that it does not name. -/
theorem events_of_not_names (h : c.names k key = false) : c.events k key = [] := by
  cases c with
  | add k' key' v =>
    rw [Change.events]
    split
    · next hk =>
      refine offered_of_not_any ?_
      simpa [Change.names, hk.1] using h
    · rfl
  | addAll k' facts =>
    rw [Change.events]
    split
    · next hk =>
      cases hentries : factsOf facts with
      | error failure => rfl
      | ok entries =>
        obtain rfl := eq_dict_of_factsOf hentries
        have hother : entries.any (·.1.same key) = false := by simpa [Change.names, hk] using h
        exact offered_of_not_any hother
    · rfl
  | remove k' key' =>
    rw [Change.events]
    split
    · next hk => exact absurd h (by simp [Change.names, hk.1, hk.2])
    · rfl
  | _ => rfl

theorem historyOf_cons (k : FactKind) (key : Value) (c : Change) (changes : List Change) :
    historyOf k key (c :: changes) = c.events k key ++ historyOf k key changes := by
  rw [historyOf, List.filter_cons]
  split
  · rw [List.flatMap_cons, historyOf]
  · next hother => rw [events_of_not_names (Bool.of_not_eq_true hother), List.nil_append, historyOf]

theorem events_of_part_ne (h : c.part ≠ .facts k) : c.events k key = [] := by
  cases c with
  | add k' key' v => exact if_neg fun hk => h (congrArg Part.facts hk.1)
  | addAll k' facts => exact if_neg fun hk => h (congrArg Part.facts hk)
  | remove k' key' => exact if_neg fun hk => h (congrArg Part.facts hk.1)
  | _ => rfl

theorem facts_remove (p : Profile) (k : FactKind) (hkey : key.isText = true) :
    (p.remove k key).2.facts k = (p.facts k).erase key := by
  unfold remove
  split
  · next hempty =>
    rw [List.isEmpty_iff.1 hempty]
    rfl
  · rw [Value.hashable_of_isText hkey]
    exact facts_withFacts p k _

theorem follows_add (p : Profile) (k : FactKind) {key v : Value} (hkey : key.isText = true) :
    Follows p.merges (p.facts k) (fun other => (Change.add k key v).events k other)
      ((p.add k key v).2.facts k) := by
  cases hvisible : key.isBlank with
  | true =>
    have hnothing : (fun other => (Change.add k key v).events k other) = fun _ => [] :=
      funext fun other => if_neg fun h => absurd (hvisible.symm.trans h.2) (by simp)
    have hsame : (p.add k key v).2 = p := by simp [add, addFact, hvisible]
    rw [hnothing, hsame]
    exact .nothing _ _
  | false =>
    obtain ⟨after, hafter⟩ := exists_addFact hkey hvisible v
    have hevents : (fun other => (Change.add k key v).events k other) = offered [(key, v)] :=
      funext fun other => if_pos ⟨rfl, hvisible⟩
    have hstore : (p.add k key v).2.facts k = after := by
      rw [add, hafter]
      exact facts_withFacts p k after
    rw [hevents, hstore]
    exact follows_addFact hkey hvisible hafter

theorem follows_addAll (p : Profile) (k : FactKind) {facts : Value}
    (hkeys : ∀ entries, facts = .dict entries → ∀ e ∈ entries, e.1.isText = true) :
    Follows p.merges (p.facts k) (fun key => (Change.addAll k facts).events k key)
      ((p.addAll k facts).2.facts k) := by
  have hevents : (fun other => (Change.addAll k facts).events k other)
      = offered ((factsOf facts).toOption.getD []) := funext fun other => if_pos rfl
  rw [hevents, addAll]
  cases hentries : factsOf facts with
  | error failure => exact .nothing _ _
  | ok entries =>
    show Follows _ _ (offered entries)
      ((p.withFacts k (addFacts p.merges (p.facts k) entries).2).facts k)
    rw [facts_withFacts]
    exact follows_addFacts (hkeys entries (eq_dict_of_factsOf hentries))
      (visible_of_factsOf hentries)

theorem follows_remove (p : Profile) (k : FactKind) {key : Value} (hkey : key.isText = true) :
    Follows p.merges (p.facts k) (fun other => (Change.remove k key).events k other)
      ((p.remove k key).2.facts k) := by
  have hevents : (fun other => (Change.remove k key).events k other)
      = fun other => if key.same other then [none] else [] :=
    funext fun other => by simp [Change.events]
  rw [hevents, facts_remove p k hkey]
  exact follows_erase hkey

/-- **What a change does to a store is told by its events.** -/
theorem follows_apply (p : Profile) (hc : c.IsOrdinary) (k : FactKind) :
    Follows p.merges (p.facts k) (fun key => c.events k key) ((c.apply p).2.facts k) := by
  by_cases hpart : c.part = .facts k
  · cases c with
    | add k' key v =>
      obtain rfl : k' = k := Part.facts.inj hpart
      exact follows_add p k' hc.1
    | addAll k' facts =>
      obtain rfl : k' = k := Part.facts.inj hpart
      refine follows_addAll p k' ?_
      rintro entries rfl e he
      exact (hc e he).1
    | remove k' key =>
      obtain rfl : k' = k := Part.facts.inj hpart
      exact follows_remove p k' hc
    | _ => exact absurd hpart (by simp [Change.part])
  · have hnothing : (fun key => c.events k key) = fun _ => [] :=
      funext fun key => events_of_part_ne hpart
    rw [hnothing, (updates_apply p c).sameBut.facts k hpart]
    exact .nothing _ _

theorem follows_after {p : Profile} (hchanges : ∀ c ∈ changes, c.IsOrdinary) (k : FactKind) :
    Follows p.merges (p.facts k) (fun key => historyOf k key changes)
      ((p.after changes).facts k) := by
  induction changes generalizing p with
  | nil => exact .nothing _ _
  | cons c rest ih =>
    obtain ⟨hc, hrest⟩ := List.forall_mem_cons.1 hchanges
    have hsplit : (fun key => historyOf k key (c :: rest))
        = fun key => c.events k key ++ historyOf k key rest :=
      funext fun key => historyOf_cons k key c rest
    have hlater := ih (p := (c.apply p).2) hrest
    rw [(updates_apply p c).sameBut.merges] at hlater
    rw [hsplit]
    exact (follows_apply p hc k).trans hlater

theorem proper_of_events (hc : c.IsOrdinary) {v : Value} (h : some v ∈ c.events k key) :
    v.IsProper := by
  have hoffered : ∀ entries : List (Value × Value), some v ∈ offered entries key →
      ∃ e ∈ entries, e.2 = v := by
    intro entries hv
    obtain ⟨e, he, heq⟩ := List.mem_map.1 hv
    exact ⟨e, List.mem_of_mem_filter he, Option.some.inj heq⟩
  cases c with
  | add k' key' w =>
    rw [Change.events] at h
    split at h
    · obtain ⟨e, he, rfl⟩ := hoffered _ h
      rw [List.mem_singleton.1 he]
      exact hc.2
    · exact absurd h (by simp)
  | addAll k' facts =>
    rw [Change.events] at h
    split at h
    · obtain ⟨e, he, rfl⟩ := hoffered _ h
      cases hentries : factsOf facts with
      | error failure =>
        rw [hentries] at he
        exact absurd he (by simp [Except.toOption])
      | ok entries =>
        rw [hentries] at he
        obtain rfl := eq_dict_of_factsOf hentries
        exact (hc e he).2
    · exact absurd h (by simp)
  | remove k' key' =>
    rw [Change.events] at h
    split at h <;> simp at h
  | _ => exact absurd h (by simp [Change.events])

theorem isProperHistory_historyOf (hchanges : ∀ c ∈ changes, c.IsOrdinary) (k : FactKind)
    (key : Value) : IsProperHistory (historyOf k key changes) := by
  intro v hv
  obtain ⟨c, hc, hmem⟩ := List.mem_flatMap.1 hv
  exact proper_of_events (hchanges c (List.mem_of_mem_filter hc)) hmem

theorem withFacts_facts (p : Profile) (k : FactKind) : p.withFacts k (p.facts k) = p := by
  cases k <;> rfl

/-- Merging what is merged already changes nothing. -/
theorem add_again {p : Profile} (hmerges : p.merges = true) {existing : Option Value} {v : Value}
    (hstored : (p.facts k).get? key = some (storedValue true existing v))
    (hv : v.sequence?.isSome = true) (hproper : v.IsProper) : (p.add k key v).2 = p := by
  have hsame : storedValue true (some (storedValue true existing v)) v
      = storedValue true existing v :=
    storedValue_storedValue hv (fun xs hxs => proper_of_sequence? hproper hxs) existing
  unfold add
  split
  · next after hadd =>
    rw [addFact, hmerges, hstored, hsame, Entries.insert_of_get? hstored] at hadd
    have hafter : after = p.facts k := by
      split at hadd
      · exact absurd hadd (by simp)
      · split at hadd
        · exact (Except.ok.inj hadd).symm
        · split at hadd
          · exact absurd hadd (by simp)
          · exact (Except.ok.inj hadd).symm
    rw [hafter, withFacts_facts]
  · rfl

/-- **What any run of changes leaves under a key is what the history of the key means**, whatever
    was done to other keys. To add the last sequence again changes nothing if sequences are
    merged. -/
theorem fact_after_changes (kind : ProfileClass) (merges : Bool)
    (hchanges : ∀ c ∈ changes, c.IsOrdinary) (k : FactKind) (hkey : key.isText = true) :
    ((after { kind, merges } changes).facts k).get? key = meaning merges (historyOf k key changes)
      ∧ ∀ earlier v, historyOf k key changes = earlier ++ [some v] → v.sequence?.isSome = true →
          merges = true →
          ((after { kind, merges } changes).add k key v).2 = after { kind, merges } changes := by
  have hproper := isProperHistory_historyOf hchanges k key
  have hempty : Profile.facts { kind, merges } k = [] := by cases k <;> rfl
  have hstored : ((after { kind, merges } changes).facts k).get? key
      = meaning merges (historyOf k key changes) := by
    have hfollows := follows_after (p := { kind, merges }) hchanges k
    rw [hempty] at hfollows
    rw [hfollows.get? List.nodup_nil key hkey, ← foldl_advance_eq_meaning hproper]
    rfl
  refine ⟨hstored, ?_⟩
  rintro earlier v hhistory hv rfl
  rw [hhistory] at hproper hstored
  have hearlier : IsProperHistory earlier := fun w hw => hproper w (List.mem_append_left _ hw)
  have hlast : v.IsProper := hproper v (List.mem_append_right _ (List.mem_singleton_self _))
  rw [meaning_append_singleton hearlier fun w hw => Option.some.inj hw ▸ hlast] at hstored
  have hmerges := (keepsRules_after (keepsRules_empty kind true) changes).2
  exact add_again hmerges hstored hv hlast

/-- Sequences that are merged, and another key in between. -/
def exampleRun : List Change :=
  [.add .attribute (.text "groups") (.tuple [.text "staff", .text "staff"]),
    .addAll .attribute (.dict [(.text "name", .text "A"),
      (.text "groups", .list [.int 1, .text "staff", .bool true])]),
    .remove .attribute (.text "name")]

theorem ordinary_exampleRun : ∀ c ∈ exampleRun, c.IsOrdinary := by
  have hstaff : ∀ x ∈ [Value.text "staff", .text "staff"], x.IsProper := by
    intro x hx
    obtain rfl : x = .text "staff" := by simpa using hx
    exact .text _
  have hmixed : ∀ x ∈ [Value.int 1, .text "staff", .bool true], x.IsProper := by
    intro x hx
    simp only [List.mem_cons, List.not_mem_nil, or_false] at hx
    rcases hx with rfl | rfl | rfl
    · exact .int 1
    · exact .text _
    · exact .bool true
  intro c hc
  simp only [exampleRun, List.mem_cons, List.not_mem_nil, or_false] at hc
  rcases hc with rfl | rfl | rfl
  · exact ⟨rfl, .tuple hstaff⟩
  · intro e he
    simp only [List.mem_cons, List.not_mem_nil, or_false] at he
    rcases he with rfl | rfl
    · exact ⟨rfl, .text _⟩
    · exact ⟨rfl, .list hmixed⟩
  · exact rfl

/-- The first sequence keeps what it has twice, and true is not added because 1 is there. -/
theorem fact_after_exampleRun :
    ((after { kind := .user } exampleRun).facts .attribute).get? (.text "groups")
        = some (.list [.text "staff", .text "staff", .int 1])
      ∧ ((after { kind := .user } exampleRun).add .attribute (.text "groups")
          (.list [.int 1, .text "staff", .bool true])).2 = after { kind := .user } exampleRun := by
  have hkey : (Value.text "groups").isText = true := rfl
  obtain ⟨hstored, hagain⟩ :=
    fact_after_changes .user true ordinary_exampleRun .attribute hkey
  have hhistory : historyOf .attribute (.text "groups") exampleRun
      = [some (.tuple [.text "staff", .text "staff"]),
        some (.list [.int 1, .text "staff", .bool true])] := by
    have hgroups : (Value.text "groups").isBlank = false := by decide +kernel
    have hname : (Value.text "name").isBlank = false := by decide +kernel
    simp [historyOf, exampleRun, Change.names, Change.events, offered, factsOf, checkKeys, hgroups,
      hname, Entries.keys, Value.isNull, Value.same, Except.map, Except.toOption]
  have hmeaning : meaning true (historyOf .attribute (.text "groups") exampleRun)
      = some (.list [.text "staff", .text "staff", .int 1]) := by
    rw [hhistory]
    cbv
  exact ⟨hstored.trans hmeaning,
    hagain [some (.tuple [.text "staff", .text "staff"])] _ hhistory rfl rfl⟩

end Profile

end RelyingParty
