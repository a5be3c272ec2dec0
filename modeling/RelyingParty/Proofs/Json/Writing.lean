import RelyingParty.Proofs.Json.Nesting

set_option autoImplicit false

/-! # What is written, and what is not

JSON has no form for bytes, for things about which nothing is known, for sets and for members of
enumerations, and not every value is the name of a member: `Unwritable`. A value without any of
these is written, unless arrays and objects are nested too deep in it.

The writer goes from left to right. What is nested too deep ends it only if it comes before
everything that has no form: `writeNested_eq_tooDeep_iff`. -/

namespace RelyingParty

/-! ## Kinds of values -/

namespace Value

/-- The elements of a list or a tuple. -/
def array? : Value → Option (List Value)
  | .list xs | .tuple xs => some xs
  | _ => none

/-- Values that are written in one piece, as names too: constants, numbers that are not too long,
    and texts. -/
def IsScalar : Value → Prop
  | .null | .bool _ | .float _ | .text _ | .brokenText _ => True
  | .int n => (Nat.toDigits 10 n.natAbs).length ≤ Integer.maxDigits
  | _ => False

/-- Values in which something has no form. A member or a set has none inside a mapping, and only
    there. -/
inductive Unwritable : Bool → Value → Prop
  | bytes {inside : Bool} (b : Bytes) : Unwritable inside (.bytes b)
  | object {inside : Bool} (id : Nat) : Unwritable inside (.object id)
  | int {inside : Bool} {n : Int} (h : Integer.maxDigits < (Nat.toDigits 10 n.natAbs).length) :
    Unwritable inside (.int n)
  | member (m : Member) : Unwritable true (.member m)
  | set (xs : List Value) : Unwritable true (.set xs)
  | frozenSet (xs : List Value) : Unwritable true (.frozenSet xs)
  | element {inside : Bool} {v x : Value} {xs : List Value} (h : v.sequence? = some xs)
    (hx : x ∈ xs) (hunwritable : Unwritable inside x) : Unwritable inside v
  | key {inside : Bool} {e : Value × Value} {entries : List (Value × Value)} (he : e ∈ entries)
    (hkey : ¬ e.1.IsScalar) : Unwritable inside (.dict entries)
  | value {inside : Bool} {e : Value × Value} {entries : List (Value × Value)} (he : e ∈ entries)
    (hunwritable : Unwritable true e.2) : Unwritable inside (.dict entries)

theorem sequence?_of_array? {v : Value} {xs : List Value} (h : v.array? = some xs) :
    v.sequence? = some xs := by
  cases v with
  | list ys => exact h
  | tuple ys => exact h
  | _ => exact absurd h (by simp [array?])

theorem sequence?_of_isScalar {v : Value} (h : v.IsScalar) : v.sequence? = none := by
  cases v with
  | list xs => exact h.elim
  | tuple xs => exact h.elim
  | set xs => exact h.elim
  | frozenSet xs => exact h.elim
  | _ => rfl

theorem not_isScalar_of_array? {v : Value} {xs : List Value} (h : v.array? = some xs) :
    ¬ v.IsScalar := by
  intro hscalar
  exact absurd ((sequence?_of_array? h).symm.trans (sequence?_of_isScalar hscalar)) (by simp)

/-- Values that are no scalar and nothing that is made of others. -/
structure IsFormless (v : Value) : Prop where
  scalar : ¬ v.IsScalar
  array : v.array? = none
  dict : ∀ entries, v ≠ .dict entries

/-- There are four kinds of values. -/
theorem kind_cases (v : Value) :
    v.IsScalar ∨ (∃ xs, v.array? = some xs) ∨ (∃ entries, v = .dict entries) ∨ v.IsFormless := by
  cases v with
  | list xs => exact Or.inr (Or.inl ⟨xs, rfl⟩)
  | tuple xs => exact Or.inr (Or.inl ⟨xs, rfl⟩)
  | dict entries => exact Or.inr (Or.inr (Or.inl ⟨entries, rfl⟩))
  | int n =>
    by_cases hn : (Nat.toDigits 10 n.natAbs).length ≤ Integer.maxDigits
    · exact Or.inl hn
    · exact Or.inr (Or.inr (Or.inr ⟨hn, rfl, by simp⟩))
  | set xs => exact Or.inr (Or.inr (Or.inr ⟨id, rfl, by simp⟩))
  | frozenSet xs => exact Or.inr (Or.inr (Or.inr ⟨id, rfl, by simp⟩))
  | bytes b => exact Or.inr (Or.inr (Or.inr ⟨id, rfl, by simp⟩))
  | member m => exact Or.inr (Or.inr (Or.inr ⟨id, rfl, by simp⟩))
  | object n => exact Or.inr (Or.inr (Or.inr ⟨id, rfl, by simp⟩))
  | _ => exact Or.inl trivial

end Value

open Value (IsScalar Unwritable array?)

namespace Json

/-- What holds of scalars, of what has no form and of what is nested too deep, and of arrays and
    objects if it holds one level deeper of what is in them, holds of all values. -/
@[elab_as_elim]
theorem nested_induction {motive : Nat → Value → Prop} (depth : Nat) (v : Value)
    (scalar : ∀ depth v, v.IsScalar → motive depth v)
    (formless : ∀ depth v, v.IsFormless → motive depth v)
    (deepArray : ∀ v xs, v.array? = some xs → motive 0 v)
    (deepDict : ∀ entries, motive 0 (.dict entries))
    (array : ∀ depth v xs, v.array? = some xs → (∀ x ∈ xs, motive depth x) → motive (depth + 1) v)
    (dict : ∀ depth entries, (∀ e ∈ entries, motive depth e.2) →
      motive (depth + 1) (.dict entries)) : motive depth v := by
  induction depth generalizing v with
  | zero =>
    rcases v.kind_cases with hscalar | ⟨xs, harray⟩ | ⟨entries, rfl⟩ | hformless
    · exact scalar 0 v hscalar
    · exact deepArray v xs harray
    · exact deepDict entries
    · exact formless 0 v hformless
  | succ depth ih =>
    rcases v.kind_cases with hscalar | ⟨xs, harray⟩ | ⟨entries, rfl⟩ | hformless
    · exact scalar _ v hscalar
    · exact array depth v xs harray fun x _ => ih x
    · exact dict depth entries fun e _ => ih e.2
    · exact formless _ v hformless

/-! ## One step of the writer -/

variable {layout : Layout} {depth : Nat} {v : Value} {xs : List Value}
  {entries : List (Value × Value)}

theorem exists_integerText_iff {n : Int} :
    (∃ text, integerText n = .ok text) ↔ (Value.int n).IsScalar := by
  rw [integerText]
  split
  · next hlong => exact iff_of_false (by simp) (Nat.not_le.2 hlong)
  · next hshort => exact iff_of_true ⟨_, rfl⟩ (Nat.not_lt.1 hshort)

theorem integerText_ne_tooDeep (n : Int) : integerText n ≠ .error .tooDeep := by
  rw [integerText]
  split <;> simp

/-- The names that members may have are the scalars. -/
theorem exists_keyText_iff {ascii : Bool} :
    (∃ name, keyText ascii v = .ok name) ↔ v.IsScalar := by
  cases v with
  | int n =>
    rw [← exists_integerText_iff, keyText]
    constructor
    · rintro ⟨name, h⟩
      obtain ⟨text, htext, -⟩ := map_eq_ok_iff.1 h
      exact ⟨text, htext⟩
    · rintro ⟨text, htext⟩
      exact ⟨_, map_eq_ok_iff.2 ⟨text, htext, rfl⟩⟩
  | null => exact iff_of_true ⟨_, rfl⟩ trivial
  | bool b => exact iff_of_true ⟨_, rfl⟩ trivial
  | float x => exact iff_of_true ⟨_, rfl⟩ trivial
  | text s => exact iff_of_true ⟨_, rfl⟩ trivial
  | brokenText points => exact iff_of_true ⟨_, rfl⟩ trivial
  | _ => exact iff_of_false (by simp [keyText]) id

theorem keyText_ne_tooDeep (ascii : Bool) (v : Value) : keyText ascii v ≠ .error .tooDeep := by
  cases v with
  | int n =>
    rw [keyText]
    intro h
    exact integerText_ne_tooDeep n (map_eq_error_iff.1 h)
  | _ => simp [keyText]

theorem exists_writeNested_of_isScalar (layout : Layout) (depth : Nat) (h : v.IsScalar) :
    ∃ text, writeNested layout depth v = .ok text := by
  cases v with
  | int n =>
    rw [writeNested]
    exact exists_integerText_iff.2 h
  | null => exact ⟨_, by rw [writeNested]⟩
  | bool b => exact ⟨_, by rw [writeNested]⟩
  | float x => exact ⟨_, by rw [writeNested]⟩
  | text s => exact ⟨_, by rw [writeNested]⟩
  | brokenText points => exact ⟨_, by rw [writeNested]⟩
  | _ => exact h.elim

/-- What has no form is refused at once. -/
theorem writeNested_of_isFormless (layout : Layout) (depth : Nat) (h : v.IsFormless) :
    ∃ cause, cause ≠ .tooDeep ∧ writeNested layout depth v = .error cause := by
  have hvalue : WriteError.value v.typeName ≠ .tooDeep := by simp
  cases v with
  | int n =>
    refine ⟨.tooManyDigits, by simp, ?_⟩
    rw [writeNested, integerText, if_pos (Nat.lt_of_not_le h.scalar)]
  | list xs => exact absurd h.array (by simp [array?])
  | tuple xs => exact absurd h.array (by simp [array?])
  | dict entries => exact absurd rfl (h.dict entries)
  | set xs => exact ⟨_, hvalue, by simp only [writeNested]⟩
  | frozenSet xs => exact ⟨_, hvalue, by simp only [writeNested]⟩
  | bytes b => exact ⟨_, hvalue, by simp only [writeNested]⟩
  | member m => exact ⟨_, hvalue, by simp only [writeNested]⟩
  | object n => exact ⟨_, hvalue, by simp only [writeNested]⟩
  | _ => exact absurd trivial h.scalar

theorem writeNested_array_zero (h : v.array? = some xs) :
    writeNested layout 0 v = .error .tooDeep := by
  cases v with
  | list ys =>
    rw [writeNested]
    rfl
  | tuple ys =>
    rw [writeNested]
    rfl
  | _ => exact absurd h (by simp [array?])

theorem writeNested_array_succ (h : v.array? = some xs) :
    writeNested layout (depth + 1) v = (xs.mapM (writeNested layout depth)).map
      fun texts => "[" ++ layout.itemSeparator.intercalate texts ++ "]" := by
  cases v with
  | list ys =>
    obtain rfl := Option.some.inj h
    rw [writeNested, ← writeAll_eq_mapM]
    rfl
  | tuple ys =>
    obtain rfl := Option.some.inj h
    rw [writeNested, ← writeAll_eq_mapM]
    rfl
  | _ => exact absurd h (by simp [array?])

theorem writeNested_dict_zero : writeNested layout 0 (.dict entries) = .error .tooDeep := by
  rw [writeNested]
  rfl

theorem writeNested_dict_succ :
    writeNested layout (depth + 1) (.dict entries)
      = (entries.mapM (writeEntry layout depth)).map
        fun texts => "\x7b" ++ layout.itemSeparator.intercalate texts ++ "\x7d" := by
  rw [writeNested, ← writeEntries_eq_mapM]
  rfl

/-- A member is written if its name and its value are. -/
theorem exists_writeEntry_iff_isScalar {e : Value × Value} :
    (∃ text, writeEntry layout depth e = .ok text) ↔
      e.1.IsScalar ∧ ∃ text, writeNested layout depth e.2 = .ok text := by
  rw [writeEntry, ← exists_keyText_iff]
  constructor
  · rintro ⟨_, h⟩
    obtain ⟨name, hname, hrest⟩ := bind_eq_ok_iff.1 h
    obtain ⟨text, htext, -⟩ := bind_eq_ok_iff.1 hrest
    exact ⟨⟨name, hname⟩, text, htext⟩
  · rintro ⟨⟨name, hname⟩, text, htext⟩
    exact ⟨_, bind_eq_ok_iff.2 ⟨name, hname, bind_eq_ok_iff.2 ⟨text, htext, rfl⟩⟩⟩

/-- A member is not written if its name is none, or else because of its value. -/
theorem writeEntry_eq_error_iff {e : Value × Value} {cause : WriteError} :
    writeEntry layout depth e = .error cause ↔
      keyText layout.asciiOnly e.1 = .error cause
        ∨ e.1.IsScalar ∧ writeNested layout depth e.2 = .error cause := by
  rw [writeEntry, bind_eq_error_iff, ← exists_keyText_iff]
  refine or_congr_right ?_
  constructor
  · rintro ⟨name, hname, h⟩
    rcases bind_eq_error_iff.1 h with htext | ⟨text, -, hrest⟩
    · exact ⟨⟨name, hname⟩, htext⟩
    · exact absurd hrest (by simp)
  · rintro ⟨⟨name, hname⟩, htext⟩
    exact ⟨name, hname, bind_eq_error_iff.2 (Or.inl htext)⟩

/-! ## What is written -/

/-- Values that are written if they may be nested so deep. -/
inductive Writable : Nat → Value → Prop
  | scalar {depth : Nat} {v : Value} (h : v.IsScalar) : Writable depth v
  | array {depth : Nat} {v : Value} {xs : List Value} (h : v.array? = some xs)
    (hxs : ∀ x ∈ xs, Writable depth x) : Writable (depth + 1) v
  | dict {depth : Nat} {entries : List (Value × Value)} (hkeys : ∀ e ∈ entries, e.1.IsScalar)
    (h : ∀ e ∈ entries, Writable depth e.2) : Writable (depth + 1) (.dict entries)

theorem writable_array_iff (h : v.array? = some xs) :
    Writable depth v ↔ ∃ inner, depth = inner + 1 ∧ ∀ x ∈ xs, Writable inner x := by
  constructor
  · intro hv
    cases hv with
    | scalar hscalar => exact absurd hscalar (Value.not_isScalar_of_array? h)
    | array h' hxs =>
      obtain rfl := Option.some.inj (h.symm.trans h')
      exact ⟨_, rfl, hxs⟩
    | dict => exact absurd h (by simp [array?])
  · rintro ⟨inner, rfl, hxs⟩
    exact .array h hxs

theorem writable_dict_iff :
    Writable depth (.dict entries) ↔
      ∃ inner, depth = inner + 1 ∧ ∀ e ∈ entries, e.1.IsScalar ∧ Writable inner e.2 := by
  constructor
  · intro h
    cases h with
    | scalar hscalar => exact hscalar.elim
    | array harray => exact absurd harray (by simp [array?])
    | dict hkeys hvalues => exact ⟨_, rfl, fun e he => ⟨hkeys e he, hvalues e he⟩⟩
  · rintro ⟨inner, rfl, hentries⟩
    exact .dict (fun e he => (hentries e he).1) fun e he => (hentries e he).2

theorem not_writable_of_isFormless (h : v.IsFormless) : ¬ Writable depth v := by
  intro hv
  cases hv with
  | scalar hscalar => exact h.scalar hscalar
  | array harray => exact absurd (h.array.symm.trans harray) (by simp)
  | dict => exact h.dict _ rfl

/-- **A value is written if it is writable**, and only then. -/
theorem exists_writeNested_iff_writable :
    (∃ text, writeNested layout depth v = .ok text) ↔ Writable depth v := by
  -- what is in an array or an object may be nested one level less deep
  induction depth, v using nested_induction with
  | scalar depth v h =>
    exact iff_of_true (exists_writeNested_of_isScalar layout depth h) (.scalar h)
  | formless depth v h =>
    obtain ⟨cause, -, hcause⟩ := writeNested_of_isFormless layout depth h
    exact iff_of_false (by simp [hcause]) (not_writable_of_isFormless h)
  | deepArray v xs h =>
    rw [writable_array_iff h, writeNested_array_zero h]
    simp
  | deepDict entries =>
    rw [writable_dict_iff, writeNested_dict_zero]
    simp
  | array depth v xs h ih =>
    rw [writable_array_iff h, writeNested_array_succ h, exists_map_eq_ok_iff,
      exists_mapM_eq_ok_iff, forall₂_congr ih]
    simp only [Nat.add_right_cancel_iff, exists_eq_left']
  | dict depth entries ih =>
    have hentries : ∀ e ∈ entries, (∃ text, writeEntry layout depth e = .ok text) ↔
        e.1.IsScalar ∧ Writable depth e.2 := by
      intro e he
      rw [exists_writeEntry_iff_isScalar, ih e he]
    rw [writable_dict_iff, writeNested_dict_succ, exists_map_eq_ok_iff, exists_mapM_eq_ok_iff,
      forall₂_congr hentries]
    simp only [Nat.add_right_cancel_iff, exists_eq_left']

/-! ## Where the writer breaks off -/

/-- Values in which the writer, from left to right, comes to an array or an object that is nested
    too deep, and to nothing before that it does not write. -/
inductive BreaksOff : Nat → Value → Prop
  | array {v : Value} {xs : List Value} (h : v.array? = some xs) : BreaksOff 0 v
  | dict (entries : List (Value × Value)) : BreaksOff 0 (.dict entries)
  | element {depth : Nat} {v x : Value} {before after : List Value}
    (h : v.array? = some (before ++ x :: after)) (hbefore : ∀ y ∈ before, Writable depth y)
    (hx : BreaksOff depth x) : BreaksOff (depth + 1) v
  | value {depth : Nat} {e : Value × Value} {before after : List (Value × Value)}
    (hbefore : ∀ e' ∈ before, e'.1.IsScalar ∧ Writable depth e'.2) (hkey : e.1.IsScalar)
    (he : BreaksOff depth e.2) : BreaksOff (depth + 1) (.dict (before ++ e :: after))

theorem not_breaksOff_of_isScalar (h : v.IsScalar) : ¬ BreaksOff depth v := by
  intro hv
  cases hv with
  | array harray => exact Value.not_isScalar_of_array? harray h
  | dict => exact h.elim
  | element harray => exact Value.not_isScalar_of_array? harray h
  | value => exact h.elim

theorem not_breaksOff_of_isFormless (h : v.IsFormless) : ¬ BreaksOff depth v := by
  intro hv
  cases hv with
  | array harray => exact absurd (h.array.symm.trans harray) (by simp)
  | dict entries => exact h.dict entries rfl
  | element harray => exact absurd (h.array.symm.trans harray) (by simp)
  | value => exact h.dict _ rfl

theorem breaksOff_array_iff (h : v.array? = some xs) :
    BreaksOff (depth + 1) v ↔ ∃ before x after, xs = before ++ x :: after
      ∧ (∀ y ∈ before, Writable depth y) ∧ BreaksOff depth x := by
  constructor
  · intro hv
    cases hv with
    | element h' hbefore hx => exact ⟨_, _, _, Option.some.inj (h.symm.trans h'), hbefore, hx⟩
    | value => exact absurd h (by simp [array?])
  · rintro ⟨before, x, after, rfl, hbefore, hx⟩
    exact .element h hbefore hx

theorem breaksOff_dict_iff :
    BreaksOff (depth + 1) (.dict entries) ↔ ∃ before e after, entries = before ++ e :: after
      ∧ (∀ e' ∈ before, e'.1.IsScalar ∧ Writable depth e'.2)
      ∧ e.1.IsScalar ∧ BreaksOff depth e.2 := by
  constructor
  · intro h
    generalize hdict : Value.dict entries = v at h
    cases h with
    | element harray =>
      rw [← hdict] at harray
      exact absurd harray (by simp [array?])
    | value hbefore hkey he =>
      obtain rfl := Value.dict.inj hdict
      exact ⟨_, _, _, rfl, hbefore, hkey, he⟩
  · rintro ⟨before, e, after, rfl, hbefore, hkey, he⟩
    exact .value hbefore hkey he

/-- **What is nested too deep ends the writer exactly if it breaks off there.** -/
theorem writeNested_eq_tooDeep_iff :
    writeNested layout depth v = .error .tooDeep ↔ BreaksOff depth v := by
  -- the first element that is not written decides, and all before it are writable
  induction depth, v using nested_induction with
  | scalar depth v h =>
    obtain ⟨text, htext⟩ := exists_writeNested_of_isScalar layout depth h
    exact iff_of_false (by simp [htext]) (not_breaksOff_of_isScalar h)
  | formless depth v h =>
    obtain ⟨cause, hne, hcause⟩ := writeNested_of_isFormless layout depth h
    exact iff_of_false (by simp [hcause, hne]) (not_breaksOff_of_isFormless h)
  | deepArray v xs h => exact iff_of_true (writeNested_array_zero h) (.array h)
  | deepDict entries => exact iff_of_true writeNested_dict_zero (.dict entries)
  | array depth v xs h ih =>
    rw [breaksOff_array_iff h, writeNested_array_succ h, map_eq_error_iff, mapM_eq_error_iff]
    refine exists_congr fun before => exists_congr fun x => exists_congr fun after => ?_
    refine and_congr_right fun hsplit => ?_
    have hx : x ∈ xs := hsplit ▸ List.mem_append_right _ (List.mem_cons_self ..)
    simp only [exists_writeNested_iff_writable, ih x hx]
  | dict depth entries ih =>
    rw [breaksOff_dict_iff, writeNested_dict_succ, map_eq_error_iff, mapM_eq_error_iff]
    refine exists_congr fun before => exists_congr fun e => exists_congr fun after => ?_
    refine and_congr_right fun hsplit => ?_
    have he : e ∈ entries := hsplit ▸ List.mem_append_right _ (List.mem_cons_self ..)
    simp only [exists_writeEntry_iff_isScalar, exists_writeNested_iff_writable,
      writeEntry_eq_error_iff, keyText_ne_tooDeep, false_or, ih e he]

/-! ## What has no form -/

/-- An array has something without a form in it if one of its elements has. -/
theorem unwritable_array_iff {inside : Bool} (h : v.array? = some xs) :
    Unwritable inside v ↔ ∃ x ∈ xs, Unwritable inside x := by
  constructor
  · intro hv
    cases hv with
    | element hsequence hx hunwritable =>
      obtain rfl := Option.some.inj ((Value.sequence?_of_array? h).symm.trans hsequence)
      exact ⟨_, hx, hunwritable⟩
    | _ => exact absurd h (by simp [array?])
  · rintro ⟨x, hx, hunwritable⟩
    exact .element (Value.sequence?_of_array? h) hx hunwritable

theorem unwritable_dict_iff {inside : Bool} :
    Unwritable inside (.dict entries) ↔ ∃ e ∈ entries, ¬ e.1.IsScalar ∨ Unwritable true e.2 := by
  constructor
  · intro h
    cases h with
    | element hsequence => exact absurd hsequence (by simp [Value.sequence?])
    | key he hkey => exact ⟨_, he, Or.inl hkey⟩
    | value he hvalue => exact ⟨_, he, Or.inr hvalue⟩
  · rintro ⟨e, he, hkey | hvalue⟩
    · exact .key he hkey
    · exact .value he hvalue

theorem not_unwritable_of_isScalar {inside : Bool} (h : v.IsScalar) : ¬ Unwritable inside v := by
  intro hv
  cases hv with
  | int hlong => exact absurd h (Nat.not_le.2 hlong)
  | element hsequence =>
    exact absurd (hsequence.symm.trans (Value.sequence?_of_isScalar h)) (by simp)
  | _ => exact h

theorem unwritable_of_isFormless (h : v.IsFormless) : Unwritable true v := by
  cases v with
  | int n => exact .int (Nat.lt_of_not_le h.scalar)
  | list xs => exact absurd h.array (by simp [array?])
  | tuple xs => exact absurd h.array (by simp [array?])
  | dict entries => exact absurd rfl (h.dict entries)
  | set xs => exact .set xs
  | frozenSet xs => exact .frozenSet xs
  | bytes b => exact .bytes b
  | member m => exact .member m
  | object n => exact .object n
  | _ => exact absurd trivial h.scalar

/-- Nothing in what is written is without a form. -/
theorem Writable.not_unwritable (h : Writable depth v) : ¬ Unwritable true v := by
  induction h with
  | scalar hscalar => exact not_unwritable_of_isScalar hscalar
  | array harray _ ih =>
    rw [unwritable_array_iff harray]
    rintro ⟨x, hx, hunwritable⟩
    exact ih x hx hunwritable
  | dict hkeys _ ih =>
    rw [unwritable_dict_iff]
    rintro ⟨e, he, hkey | hvalue⟩
    · exact hkey (hkeys e he)
    · exact ih e he hvalue

/-- What is refused, and not because it is nested too deep, has something in it without a form. -/
theorem unwritable_of_writeNested {cause : WriteError} (hcause : cause ≠ .tooDeep)
    (h : writeNested layout depth v = .error cause) : Unwritable true v := by
  induction depth, v using nested_induction with
  | scalar depth v hscalar =>
    obtain ⟨text, htext⟩ := exists_writeNested_of_isScalar layout depth hscalar
    exact absurd (h.symm.trans htext) (by simp)
  | formless depth v hformless => exact unwritable_of_isFormless hformless
  | deepArray v xs harray =>
    rw [writeNested_array_zero harray] at h
    exact absurd (Except.error.inj h).symm hcause
  | deepDict entries =>
    rw [writeNested_dict_zero] at h
    exact absurd (Except.error.inj h).symm hcause
  | array depth v xs harray ih =>
    rw [writeNested_array_succ harray, map_eq_error_iff, mapM_eq_error_iff] at h
    obtain ⟨before, x, after, hsplit, -, hx⟩ := h
    have hmem : x ∈ xs := hsplit ▸ List.mem_append_right _ (List.mem_cons_self ..)
    exact (unwritable_array_iff harray).2 ⟨x, hmem, ih x hmem hx⟩
  | dict depth entries ih =>
    rw [writeNested_dict_succ, map_eq_error_iff, mapM_eq_error_iff] at h
    obtain ⟨before, e, after, hsplit, -, he⟩ := h
    have hmem : e ∈ entries := hsplit ▸ List.mem_append_right _ (List.mem_cons_self ..)
    rcases writeEntry_eq_error_iff.1 he with hkey | ⟨-, hvalue⟩
    · refine .key hmem fun hscalar => ?_
      obtain ⟨name, hname⟩ := exists_keyText_iff.2 hscalar
      exact absurd (hkey.symm.trans hname) (by simp)
    · exact .value hmem (ih e hmem hvalue)

/-- **What does not break off is refused exactly if something in it has no form.** -/
theorem exists_writeNested_error_iff (h : ¬ BreaksOff depth v) :
    (∃ cause, writeNested layout depth v = .error cause) ↔ Unwritable true v := by
  constructor
  · rintro ⟨cause, hcause⟩
    refine unwritable_of_writeNested (fun htooDeep => h ?_) hcause
    exact writeNested_eq_tooDeep_iff.1 (htooDeep ▸ hcause)
  · intro hunwritable
    by_contra hnone
    exact (exists_writeNested_iff_writable.1 (exists_ok_iff.2 hnone)).not_unwritable hunwritable

end Json

end RelyingParty
