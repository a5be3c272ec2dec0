import RelyingParty.Profile.Stored
import RelyingParty.Proofs.Steps
import RelyingParty.Proofs.Value.Built

set_option autoImplicit false

/-! # Stored facts come back

A value is stored with its members tagged, inside lists at any depth; a mapping is stored as it is.
So a value without a mapping that looks like a tag comes back from its stored form:
`ofStoredForm_storedForm`, by induction on how the value is built. -/

namespace RelyingParty.Profile

/-! ## Values -/

/-- Values whose stored form stands for nothing else: no mapping in them has the key of a tag. -/
def Storable (v : Value) : Prop := v.Built (· ≠ .text enumerationTag)

theorem ofText?_text (m : Member) : Member.ofText? m.enumeration m.text = some m := by
  cases m with
  | gender g => cases g <;> decide
  | outcome o => cases o <;> decide
  | responseKind k => cases k <;> decide

/-- The entries of a tag. -/
def tagEntries (m : Member) : List (Value × Value) :=
  [(.text enumerationTag, .text m.enumeration.storedName), (.text "value", .text m.text)]

theorem taggedMember_eq (m : Member) : taggedMember m = .dict (tagEntries m) := rfl

theorem isString_tagEntries (m : Member) :
    ∀ e ∈ tagEntries m, e.1.IsString ∧ e.2.IsString := by
  intro e he
  rcases List.mem_cons.1 he with rfl | he
  · exact ⟨Value.isString_text _, Value.isString_text _⟩
  · rw [List.mem_singleton.1 he]
    exact ⟨Value.isString_text _, Value.isString_text _⟩

theorem nodup_tagEntries (m : Member) : (Entries.keys (tagEntries m)).Nodup := by
  simp [Entries.keys, tagEntries, enumerationTag]

theorem built_taggedMember (m : Member) : (taggedMember m).Built fun _ => True :=
  .dict (fun e he => ⟨(isString_tagEntries m e he).1, trivial⟩) (nodup_tagEntries m)
    fun e he => .string (isString_tagEntries m e he).2

/-- A tag names its member. -/
theorem ofStoredForm_taggedMember (depth : Nat) (m : Member) :
    ofStoredForm depth (taggedMember m) = .ok (.member m) := by
  have htext : ∀ e ∈ tagEntries m, e.1.isText = true :=
    fun e he => (isString_tagEntries m e he).1.isText
  have htag : Value.field? (tagEntries m) enumerationTag = some (.text m.enumeration.storedName) :=
    Value.field?_of_mem htext (nodup_tagEntries m) (by simp [tagEntries])
  have hvalue : Value.fieldD (tagEntries m) "value" = .text m.text :=
    Value.fieldD_of_mem htext (nodup_tagEntries m) (by simp [tagEntries])
  rw [taggedMember_eq, ofStoredForm, htag]
  show memberOfTag _ (Value.fieldD _ "value") = _
  rw [hvalue, memberOfTag, Enumeration.ofStoredName?_storedName]
  show (memberOf m.enumeration (.text m.text)).mapError Failure.refused = _
  rw [memberOf, ofText?_text]
  rfl

/-- A mapping without the key of a tag stands for itself. -/
theorem ofStoredForm_dict (depth : Nat) {entries : List (Value × Value)}
    (hkeys : ∀ e ∈ entries, e.1.IsString ∧ e.1 ≠ .text enumerationTag) :
    ofStoredForm depth (.dict entries) = .ok (.dict entries) := by
  rw [ofStoredForm, Value.field?_eq_none (fun e he => (hkeys e he).1.isText)
    fun e he => (hkeys e he).2]

/-- A stored form is built, and stands for a value. -/
structure StandsFor (depth : Nat) (form v : Value) : Prop where
  built : form.Built fun _ => True
  restored : ofStoredForm depth form = .ok v

theorem standsFor_storedForms {depth : Nat} {xs forms : List Value}
    (hxs : ∀ x ∈ xs, ∀ form, storedForm depth x = .ok form → StandsFor depth form x)
    (h : storedForms depth xs = .ok forms) :
    (∀ form ∈ forms, form.Built fun _ => True) ∧ ofStoredForms depth forms = .ok xs := by
  induction xs generalizing forms with
  | nil =>
    rw [storedForms] at h
    rw [← Except.ok.inj h]
    exact ⟨fun _ hform => absurd hform (by simp), by rw [ofStoredForms]⟩
  | cons x rest ih =>
    rw [storedForms] at h
    split at h
    · exact absurd h (by simp)
    · next form hform =>
      split at h
      · exact absurd h (by simp)
      · next forms' hforms =>
        obtain ⟨hbuilt, hrestored⟩ := hxs x (List.mem_cons_self ..) form hform
        obtain ⟨hbuilts, hrestoreds⟩ := ih (fun y hy => hxs y (List.mem_cons_of_mem _ hy)) hforms
        rw [← Except.ok.inj h]
        refine ⟨List.forall_mem_cons.2 ⟨hbuilt, hbuilts⟩, ?_⟩
        rw [ofStoredForms, hrestored, hrestoreds]

/-- What is stored as it is and stands for itself comes back. -/
theorem standsFor_self {v form : Value} {depth : Nat} (hv : v.Built fun _ => True)
    (hform : storedForm depth v = .ok v) (hself : ofStoredForm depth v = .ok v)
    (h : storedForm depth v = .ok form) : StandsFor depth form v := by
  obtain rfl := Except.ok.inj (hform.symm.trans h)
  exact ⟨hv, hself⟩

/-- **A value comes back from its stored form.** -/
theorem standsFor_storedForm {v : Value} (hv : Storable v) {depth : Nat} {form : Value}
    (h : storedForm depth v = .ok form) : StandsFor depth form v := by
  induction hv generalizing depth form with
  | null => exact standsFor_self .null (by simp only [storedForm]) (by simp only [ofStoredForm]) h
  | bool b =>
    exact standsFor_self (.bool b) (by simp only [storedForm]) (by simp only [ofStoredForm]) h
  | int n =>
    exact standsFor_self (.int n) (by simp only [storedForm]) (by simp only [ofStoredForm]) h
  | string hs =>
    refine standsFor_self (.string hs) ?_ ?_ h
    · rcases hs with ⟨s, rfl⟩ | ⟨points, rfl, -⟩
      · simp only [storedForm]
      · simp only [storedForm]
    · rcases hs with ⟨s, rfl⟩ | ⟨points, rfl, -⟩
      · simp only [ofStoredForm]
      · simp only [ofStoredForm]
  | member m =>
    rw [storedForm] at h
    rw [← Except.ok.inj h]
    exact ⟨built_taggedMember m, ofStoredForm_taggedMember depth m⟩
  | list _ ih =>
    rw [storedForm] at h
    split at h
    · exact absurd h (by simp)
    · next hdepth =>
      split at h
      · next forms hforms =>
        obtain ⟨hbuilt, hrestored⟩ := standsFor_storedForms (fun x hx form => ih x hx) hforms
        rw [← Except.ok.inj h]
        refine ⟨.list hbuilt, ?_⟩
        rw [ofStoredForm, if_neg hdepth, hrestored]
      · exact absurd h (by simp)
  | dict hkeys hdistinct hvalues ih =>
    -- what is inside a mapping is neither tagged nor looked at
    have hbuilt := (Value.Built.dict hkeys hdistinct hvalues).mono fun _ _ => trivial
    exact standsFor_self hbuilt (by simp only [storedForm]) (ofStoredForm_dict depth hkeys) h

/-! ## Stores -/

/-- The facts of a store under different strings, all of which come back from their stored form. -/
structure IsStorableStore (facts : FactStore) : Prop where
  keys : ∀ e ∈ facts, e.1.IsString
  distinct : facts.keys.Nodup
  values : ∀ e ∈ facts, Storable e.2

theorem storedFacts_cons_eq_ok_iff {key value : Value} {facts : FactStore}
    {forms : List (Value × Value)} :
    storedFacts ((key, value) :: facts) = .ok forms ↔
      ∃ form rest, storedForm maxListDepth value = .ok form ∧ storedFacts facts = .ok rest
        ∧ (key, form) :: rest = forms := by
  rw [storedFacts, bind_eq_ok_iff]
  simp only [bind_eq_ok_iff, pure_eq_ok, Except.ok.injEq, exists_and_left]

/-- A store is stored under its own keys. -/
theorem keys_storedFacts {facts : FactStore} {forms : List (Value × Value)}
    (h : storedFacts facts = .ok forms) : Entries.keys forms = facts.keys := by
  induction facts generalizing forms with
  | nil =>
    rw [← Except.ok.inj h]
  | cons fact rest ih =>
    obtain ⟨form, forms', -, hforms, rfl⟩ := storedFacts_cons_eq_ok_iff.1 h
    show fact.1 :: Entries.keys forms' = fact.1 :: Entries.keys rest
    rw [ih hforms]

/-- **The facts of a store come back from their stored forms**, in their order. -/
theorem readFacts_storedFacts {facts : FactStore} (hfacts : ∀ e ∈ facts, Storable e.2)
    {forms : List (Value × Value)} (h : storedFacts facts = .ok forms) :
    (∀ e ∈ forms, e.2.Built fun _ => True) ∧ readFacts forms = .ok facts := by
  induction facts generalizing forms with
  | nil =>
    rw [← Except.ok.inj h]
    exact ⟨fun _ he => absurd he (by simp), rfl⟩
  | cons fact rest ih =>
    obtain ⟨form, forms', hform, hforms, rfl⟩ := storedFacts_cons_eq_ok_iff.1 h
    obtain ⟨hbuilt, hrestored⟩ := standsFor_storedForm (hfacts _ (List.mem_cons_self ..)) hform
    obtain ⟨hbuilts, hread⟩ := ih (fun e he => hfacts e (List.mem_cons_of_mem _ he)) hforms
    refine ⟨List.forall_mem_cons.2 ⟨hbuilt, hbuilts⟩, ?_⟩
    rw [readFacts, hrestored, hread]
    rfl

/-- What a store is stored as is a built value. -/
theorem IsStorableStore.built {facts : FactStore} (hfacts : IsStorableStore facts)
    {forms : List (Value × Value)} (h : storedFacts facts = .ok forms) :
    (Value.dict forms).Built fun _ => True := by
  have hkeys : Entries.keys forms = facts.keys := keys_storedFacts h
  refine .dict (fun e he => ⟨?_, trivial⟩) (hkeys ▸ hfacts.distinct)
    (readFacts_storedFacts hfacts.values h).1
  have hmem : e.1 ∈ facts.keys := hkeys ▸ List.mem_map_of_mem he
  obtain ⟨fact, hfact, heq⟩ := List.mem_map.1 hmem
  rw [← heq]
  exact hfacts.keys fact hfact

theorem IsStorableStore.same_self {facts : FactStore} (hfacts : IsStorableStore facts) :
    (Value.dict facts).same (.dict facts) = true :=
  Value.same_dict_self (fun e he => (hfacts.keys e he).isText) hfacts.distinct
    fun e he => (hfacts.values e he).same_self

end RelyingParty.Profile
