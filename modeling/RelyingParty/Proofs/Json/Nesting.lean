import RelyingParty.Proofs.Json.RoundTrip
import RelyingParty.Proofs.Json.Values

set_option autoImplicit false

/-! # How deep values are nested

A value that JSON has is written unless lists and mappings are nested too deep in it, and no other
value of that kind is refused: `exists_writeNested_iff`. A mapping is written if all its values are,
one level deeper. What is read is never nested too deep: `nestedWithin_of_readBytes`. -/

namespace RelyingParty.Json

/-- Values in which lists and mappings are nested at most so deep. -/
inductive NestedWithin : Nat → Value → Prop
  | scalar {depth : Nat} {v : Value} (hlist : ∀ xs, v ≠ .list xs)
    (hdict : ∀ entries, v ≠ .dict entries) : NestedWithin depth v
  | list {depth : Nat} {xs : List Value} (h : ∀ x ∈ xs, NestedWithin depth x) :
    NestedWithin (depth + 1) (.list xs)
  | dict {depth : Nat} {entries : List (Value × Value)}
    (h : ∀ e ∈ entries, NestedWithin depth e.2) : NestedWithin (depth + 1) (.dict entries)

section Writing

variable {layout : Layout} {depth : Nat}

theorem writeAll_eq_mapM (xs : List Value) :
    writeAll layout depth xs = xs.mapM (writeNested layout depth) := by
  induction xs with
  | nil => rw [writeAll, List.mapM_nil, pure_eq_ok]
  | cons x xs ih => rw [writeAll, List.mapM_cons, ih]

theorem writeEntries_eq_mapM (entries : List (Value × Value)) :
    writeEntries layout depth entries = entries.mapM (writeEntry layout depth) := by
  induction entries with
  | nil => rw [writeEntries, List.mapM_nil, pure_eq_ok]
  | cons e rest ih => rw [writeEntries, List.mapM_cons, ih]

/-- A list is written if its elements are, one level deeper. -/
theorem exists_writeNested_list_iff {xs : List Value} :
    (∃ text, writeNested layout (depth + 1) (.list xs) = .ok text) ↔
      ∀ x ∈ xs, ∃ text, writeNested layout depth x = .ok text := by
  simp only [writeNested_list_eq_ok_iff, Nat.add_sub_cancel, writeAll_eq_mapM]
  rw [← exists_mapM_eq_ok_iff]
  constructor
  · rintro ⟨_, -, texts, htexts, -⟩
    exact ⟨texts, htexts⟩
  · rintro ⟨texts, htexts⟩
    exact ⟨_, Nat.succ_ne_zero depth, texts, htexts, rfl⟩

theorem exists_writeEntry_iff {e : Value × Value} (hkey : e.1.IsString) :
    (∃ text, writeEntry layout depth e = .ok text) ↔
      ∃ text, writeNested layout depth e.2 = .ok text := by
  obtain ⟨name, hname⟩ : ∃ name, keyText layout.asciiOnly e.1 = .ok name := by
    rcases hkey with ⟨s, hs⟩ | ⟨points, hpoints, -⟩
    · exact ⟨_, by rw [hs]; rfl⟩
    · exact ⟨_, by rw [hpoints]; rfl⟩
  rw [writeEntry, hname, ok_bind]
  constructor
  · rintro ⟨_, h⟩
    obtain ⟨text, htext, -⟩ := bind_eq_ok_iff.1 h
    exact ⟨text, htext⟩
  · rintro ⟨text, htext⟩
    exact ⟨_, bind_eq_ok_iff.2 ⟨text, htext, rfl⟩⟩

/-- A mapping from strings is written if its values are, one level deeper. -/
theorem exists_writeNested_dict_iff {entries : List (Value × Value)}
    (hkeys : ∀ e ∈ entries, e.1.IsString) :
    (∃ text, writeNested layout (depth + 1) (.dict entries) = .ok text) ↔
      ∀ e ∈ entries, ∃ text, writeNested layout depth e.2 = .ok text := by
  simp only [writeNested_dict_eq_ok_iff, Nat.add_sub_cancel, writeEntries_eq_mapM]
  have hentries : (∀ e ∈ entries, ∃ text, writeNested layout depth e.2 = .ok text) ↔
      ∀ e ∈ entries, ∃ text, writeEntry layout depth e = .ok text :=
    forall₂_congr fun e he => (exists_writeEntry_iff (hkeys e he)).symm
  rw [hentries, ← exists_mapM_eq_ok_iff]
  constructor
  · rintro ⟨_, -, texts, htexts, -⟩
    exact ⟨texts, htexts⟩
  · rintro ⟨texts, htexts⟩
    exact ⟨_, Nat.succ_ne_zero depth, texts, htexts, rfl⟩

theorem exists_writeNested_of_isString {v : Value} (hv : v.IsString) :
    ∃ text, writeNested layout depth v = .ok text := by
  rcases hv with ⟨s, rfl⟩ | ⟨points, rfl, -⟩
  · exact ⟨_, by rw [writeNested]⟩
  · exact ⟨_, by rw [writeNested]⟩

/-- A scalar is nested in no list and no mapping. -/
theorem nestedWithin_of_isString {v : Value} (hv : v.IsString) : NestedWithin depth v := by
  rcases hv with ⟨s, rfl⟩ | ⟨points, rfl, -⟩
  · exact .scalar (by simp) (by simp)
  · exact .scalar (by simp) (by simp)

/-- **A value that JSON has is written exactly if it is not nested too deep.** -/
theorem exists_writeNested_iff {v : Value} (hv : v.IsJson False) :
    (∃ text, writeNested layout depth v = .ok text) ↔ NestedWithin depth v := by
  induction hv generalizing depth with
  | null => exact iff_of_true ⟨_, by rw [writeNested]⟩ (.scalar (by simp) (by simp))
  | bool b => exact iff_of_true ⟨_, by rw [writeNested]⟩ (.scalar (by simp) (by simp))
  | @int n hn =>
    have htext : integerText n = .ok (toString n) := by
      rw [integerText, if_neg (Nat.not_lt.2 hn)]
    exact iff_of_true ⟨_, by rw [writeNested, htext]⟩ (.scalar (by simp) (by simp))
  | float h => exact h.elim
  | string hs => exact iff_of_true (exists_writeNested_of_isString hs) (nestedWithin_of_isString hs)
  | @list xs hxs ih =>
    cases depth with
    | zero =>
      refine iff_of_false ?_ fun h => ?_
      · rintro ⟨text, h⟩
        exact (writeNested_list_eq_ok_iff.1 h).1 rfl
      · cases h with
        | scalar hlist hdict => exact hlist xs rfl
    | succ depth =>
      rw [exists_writeNested_list_iff]
      constructor
      · intro h
        exact .list fun x hx => (ih x hx).1 (h x hx)
      · intro h
        cases h with
        | scalar hlist hdict => exact absurd rfl (hlist xs)
        | list hall => exact fun x hx => (ih x hx).2 (hall x hx)
  | @dict entries hkeys hdistinct hvalues ih =>
    cases depth with
    | zero =>
      refine iff_of_false ?_ fun h => ?_
      · rintro ⟨text, h⟩
        exact (writeNested_dict_eq_ok_iff.1 h).1 rfl
      · cases h with
        | scalar hlist hdict => exact hdict entries rfl
    | succ depth =>
      rw [exists_writeNested_dict_iff hkeys]
      constructor
      · intro h
        exact .dict fun e he => (ih e he).1 (h e he)
      · intro h
        cases h with
        | scalar hlist hdict => exact absurd rfl (hdict entries)
        | dict hall => exact fun e he => (ih e he).2 (hall e he)

end Writing

/-! ## What a value is nested in -/

theorem NestedWithin.of_list {depth : Nat} {xs : List Value} (h : NestedWithin depth (.list xs)) :
    ∃ inner, depth = inner + 1 ∧ ∀ x ∈ xs, NestedWithin inner x := by
  cases h with
  | scalar hlist hdict => exact absurd rfl (hlist xs)
  | list hxs => exact ⟨_, rfl, hxs⟩

theorem NestedWithin.of_dict {depth : Nat} {entries : List (Value × Value)}
    (h : NestedWithin depth (.dict entries)) :
    ∃ inner, depth = inner + 1 ∧ ∀ e ∈ entries, NestedWithin inner e.2 := by
  cases h with
  | scalar hlist hdict => exact absurd rfl (hdict entries)
  | dict hentries => exact ⟨_, rfl, hentries⟩

/-- A member of a mapping is nested less deep. -/
theorem NestedWithin.fieldD {depth : Nat} {entries : List (Value × Value)}
    (h : NestedWithin (depth + 1) (.dict entries)) (name : String) :
    NestedWithin depth (Value.fieldD entries name) := by
  obtain ⟨_, hdepth, hentries⟩ := h.of_dict
  obtain rfl := Nat.succ.inj hdepth
  unfold Value.fieldD
  cases hfield : Value.field? entries name with
  | none => exact .scalar (by simp) (by simp)
  | some v =>
    obtain ⟨key, hmem, -⟩ := Entries.mem_of_get? hfield
    exact hentries _ hmem

/-! ## Values that are read -/

theorem nestedWithin_of_number {depth : Nat} {negative : Bool} {cs rest : List Char} {v : Value}
    (h : number .exact negative cs = .ok (v, rest)) : NestedWithin depth v := by
  unfold number at h
  split at h
  · exact absurd h (by simp)
  · obtain ⟨v', hv, heq⟩ := map_eq_ok_iff.1 h
    obtain ⟨rfl, -⟩ := Prod.mk.inj heq
    unfold Numeral.value at hv
    split at hv
    · split at hv
      · exact absurd hv (by simp)
      · rw [← Except.ok.inj hv]
        exact .scalar (by simp) (by simp)
    · rw [← Except.ok.inj hv]
      exact .scalar (by simp) (by simp)

/-- The mapping that pairs build holds values of the pairs. -/
theorem nestedWithin_ofPairs {depth : Nat} {pairs : List (Value × Value)}
    (h : ∀ e ∈ pairs, NestedWithin depth e.2) :
    NestedWithin (depth + 1) (.dict (Entries.ofPairs pairs)) := by
  have hentries : ∀ e ∈ Entries.insertAll [] pairs, True ∧ NestedWithin depth e.2 :=
    Entries.forall_mem_insertAll (p := fun _ => True) (q := NestedWithin depth)
      (fun _ he => absurd he (by simp)) fun e he => ⟨trivial, h e he⟩
  exact .dict fun e he => (hentries e he).2

theorem inherited_nestedWithin : Inherited NestedWithin where
  null := .scalar (by simp) (by simp)
  bool := fun _ => .scalar (by simp) (by simp)
  float := fun _ => .scalar (by simp) (by simp)
  string := nestedWithin_of_isString
  number := nestedWithin_of_number
  list := .list
  dict := fun h => nestedWithin_ofPairs fun e he => (h e he).2

/-- **What is read is not nested deeper than what is written.** -/
theorem nestedWithin_of_readBytes {e : Encoding} {bytes : Bytes} {v : Value}
    (h : readBytes e bytes = .ok v) : NestedWithin maxDepth v := by
  unfold readBytes at h
  split at h
  · exact absurd h (by simp)
  · exact inherited_nestedWithin.of_read h

end RelyingParty.Json
