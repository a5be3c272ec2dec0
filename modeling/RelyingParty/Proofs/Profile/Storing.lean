import RelyingParty.Proofs.Json.Ascii
import RelyingParty.Proofs.Profile.Survival

set_option autoImplicit false

/-! # Which profiles are stored

A profile is stored unless something in its facts has no form in JSON: `serialize_as_told_iff`.
Members of enumerations and sets have one as long as no mapping is around them, because they are
tagged or made lists before the object is written. What is not told is how deep facts may be nested.
Sequences that are nested too deep end the tagging, and what the writer breaks off at ends the
writing, both with a fault. -/

namespace RelyingParty

open Value (IsScalar Unwritable)

namespace Profile

/-! ## Facts as they are stored -/

/-- Values in which sequences are nested at most so deep. What is inside a mapping is not looked
    at. -/
inductive SequencesWithin : Nat → Value → Prop
  | other {depth : Nat} {v : Value} (h : v.sequence? = none) : SequencesWithin depth v
  | sequence {depth : Nat} {v : Value} {xs : List Value} (h : v.sequence? = some xs)
    (hxs : ∀ x ∈ xs, SequencesWithin depth x) : SequencesWithin (depth + 1) v

/-- What a value that is no sequence is stored as. -/
def taggedForm : Value → Value
  | .member m => taggedMember m
  | v => v

section Forms

variable {depth : Nat} {v form : Value} {xs : List Value}

theorem storedForm_other (h : v.sequence? = none) : storedForm depth v = .ok (taggedForm v) := by
  cases v with
  | list xs => exact absurd h (by simp [Value.sequence?])
  | tuple xs => exact absurd h (by simp [Value.sequence?])
  | set xs => exact absurd h (by simp [Value.sequence?])
  | frozenSet xs => exact absurd h (by simp [Value.sequence?])
  | _ => simp only [storedForm, taggedForm]

/-- All sequences are stored as lists. -/
theorem storedForm_sequence (h : v.sequence? = some xs) :
    storedForm depth v = storedForm depth (.list xs) := by
  cases v with
  | list ys =>
    obtain rfl := Option.some.inj h
    rfl
  | tuple ys =>
    obtain rfl := Option.some.inj h
    simp only [storedForm]
  | set ys =>
    obtain rfl := Option.some.inj h
    simp only [storedForm]
  | frozenSet ys =>
    obtain rfl := Option.some.inj h
    simp only [storedForm]
  | _ => exact absurd h (by simp [Value.sequence?])

theorem storedForm_sequence_zero (h : v.sequence? = some xs) :
    storedForm 0 v = .error .tooDeep := by
  rw [storedForm_sequence h, storedForm, if_pos rfl]

theorem storedForm_sequence_succ (h : v.sequence? = some xs) :
    storedForm (depth + 1) v = (xs.mapM (storedForm depth)).map .list := by
  rw [storedForm_sequence h, storedForm, if_neg (Nat.succ_ne_zero depth), Nat.add_sub_cancel,
    ← storedForms_eq_mapM]
  cases storedForms depth xs with
  | error cause => rfl
  | ok forms => rfl

theorem sequencesWithin_iff (h : v.sequence? = some xs) :
    SequencesWithin depth v ↔ ∃ inner, depth = inner + 1 ∧ ∀ x ∈ xs, SequencesWithin inner x := by
  constructor
  · intro hv
    cases hv with
    | other hnone => exact absurd (h.symm.trans hnone) (by simp)
    | sequence h' hxs =>
      obtain rfl := Option.some.inj (h.symm.trans h')
      exact ⟨_, rfl, hxs⟩
  · rintro ⟨inner, rfl, hxs⟩
    exact .sequence h hxs

/-- A fact has a stored form if its sequences are not nested too deep. -/
theorem exists_storedForm_iff :
    (∃ form, storedForm depth v = .ok form) ↔ SequencesWithin depth v := by
  induction depth generalizing v with
  | zero =>
    cases h : v.sequence? with
    | none => exact iff_of_true ⟨_, storedForm_other h⟩ (.other h)
    | some xs =>
      rw [sequencesWithin_iff h, storedForm_sequence_zero h]
      simp
  | succ depth ih =>
    cases h : v.sequence? with
    | none => exact iff_of_true ⟨_, storedForm_other h⟩ (.other h)
    | some xs =>
      rw [sequencesWithin_iff h, storedForm_sequence_succ h, exists_map_eq_ok_iff,
        exists_mapM_eq_ok_iff]
      simp only [ih, Nat.add_right_cancel_iff, exists_eq_left']

/-- What is no sequence and no member has a form inside a mapping if it has one anywhere. -/
theorem unwritable_of_other (h : v.sequence? = none) (hmember : ∀ m, v ≠ .member m) :
    Unwritable true v ↔ Unwritable false v := by
  constructor
  · intro hv
    cases hv with
    | bytes b => exact .bytes b
    | object n => exact .object n
    | int hlong => exact .int hlong
    | member m => exact absurd rfl (hmember m)
    | set xs => exact absurd h (by simp [Value.sequence?])
    | frozenSet xs => exact absurd h (by simp [Value.sequence?])
    | element hsequence => exact absurd (h.symm.trans hsequence) (by simp)
    | key he hkey => exact .key he hkey
    | value he hvalue => exact .value he hvalue
  · intro hv
    cases hv with
    | bytes b => exact .bytes b
    | object n => exact .object n
    | int hlong => exact .int hlong
    | element hsequence => exact absurd (h.symm.trans hsequence) (by simp)
    | key he hkey => exact .key he hkey
    | value he hvalue => exact .value he hvalue

theorem not_unwritable_text {inside : Bool} (s : String) : ¬ Unwritable inside (.text s) :=
  Json.not_unwritable_of_isScalar (v := .text s) trivial

theorem not_unwritable_taggedMember (m : Member) : ¬ Unwritable true (taggedMember m) := by
  rw [taggedMember, Json.unwritable_dict_iff]
  rintro ⟨e, he, h⟩
  simp only [List.mem_cons, List.not_mem_nil, or_false] at he
  rcases he with rfl | rfl
  · exact h.elim (fun hkey => hkey trivial) (not_unwritable_text _)
  · exact h.elim (fun hkey => hkey trivial) (not_unwritable_text _)

theorem unwritable_taggedForm (h : v.sequence? = none) :
    Unwritable true (taggedForm v) ↔ Unwritable false v := by
  by_cases hmember : ∃ m, v = .member m
  · obtain ⟨m, rfl⟩ := hmember
    refine iff_of_false (not_unwritable_taggedMember m) fun hm => ?_
    cases hm with
    | element hsequence => exact absurd hsequence (by simp [Value.sequence?])
  · have hsame : taggedForm v = v := by
      unfold taggedForm
      split
      · next m => exact absurd ⟨m, rfl⟩ hmember
      · rfl
    rw [hsame]
    exact unwritable_of_other h fun m hm => hmember ⟨m, hm⟩

/-- Outside mappings, a sequence of any kind has something without a form in it if one of its
    elements has. -/
theorem unwritable_sequence_iff (h : v.sequence? = some xs) :
    Unwritable false v ↔ ∃ x ∈ xs, Unwritable false x := by
  constructor
  · intro hv
    cases hv with
    | element hsequence hx hunwritable =>
      obtain rfl := Option.some.inj (h.symm.trans hsequence)
      exact ⟨_, hx, hunwritable⟩
    | _ => exact absurd h (by simp [Value.sequence?])
  · rintro ⟨x, hx, hunwritable⟩
    exact .element h hx hunwritable

/-- **The stored form has no JSON exactly if something in the fact has no form.** -/
theorem unwritable_storedForm_iff (h : storedForm depth v = .ok form) :
    Unwritable true form ↔ Unwritable false v := by
  -- sequences have become lists and members tags, so that only what mappings hold is left
  induction depth generalizing v form with
  | zero =>
    cases hsequence : v.sequence? with
    | none =>
      rw [← Except.ok.inj ((storedForm_other hsequence).symm.trans h)]
      exact unwritable_taggedForm hsequence
    | some xs => exact absurd ((storedForm_sequence_zero hsequence).symm.trans h) (by simp)
  | succ depth ih =>
    cases hsequence : v.sequence? with
    | none =>
      rw [← Except.ok.inj ((storedForm_other hsequence).symm.trans h)]
      exact unwritable_taggedForm hsequence
    | some xs =>
      rw [storedForm_sequence_succ hsequence] at h
      obtain ⟨forms, hforms, rfl⟩ := map_eq_ok_iff.1 h
      rw [Json.unwritable_array_iff rfl, unwritable_sequence_iff hsequence]
      exact exists_mem_iff_of_mapM (fun x _ y hy => ih hy) hforms

end Forms

/-! ## Stores -/

theorem storedFacts_eq_mapM (facts : FactStore) :
    storedFacts facts
      = facts.mapM fun f => (storedForm maxListDepth f.2).map fun form => (f.1, form) := by
  induction facts with
  | nil => rfl
  | cons f rest ih =>
    obtain ⟨key, value⟩ := f
    rw [storedFacts, List.mapM_cons, ih]
    cases storedForm maxListDepth value with
    | error cause => rfl
    | ok form => rfl

theorem exists_storedFacts_iff {facts : FactStore} :
    (∃ forms, storedFacts facts = .ok forms) ↔
      ∀ f ∈ facts, SequencesWithin maxListDepth f.2 := by
  rw [storedFacts_eq_mapM, exists_mapM_eq_ok_iff]
  simp only [exists_map_eq_ok_iff, exists_storedForm_iff]

theorem unwritable_storedFacts_iff {facts : FactStore} (hkeys : ∀ f ∈ facts, f.1.IsScalar)
    {forms : List (Value × Value)} (h : storedFacts facts = .ok forms) {inside : Bool} :
    Unwritable inside (.dict forms) ↔ ∃ f ∈ facts, Unwritable false f.2 := by
  rw [storedFacts_eq_mapM] at h
  rw [Json.unwritable_dict_iff]
  refine exists_mem_iff_of_mapM (fun f hf e he => ?_) h
  obtain ⟨form, hform, rfl⟩ := map_eq_ok_iff.1 he
  rw [unwritable_storedForm_iff hform]
  exact or_iff_right fun hkey => hkey (hkeys f hf)

/-! ## Profiles -/

/-- A profile the keys and rights of which are texts, with a truth value and names where they
    belong. Its facts are any values. -/
structure HasPlainParts (p : Profile) : Prop where
  keys : ∀ k, ∀ f ∈ p.facts k, f.1.isText = true
  rights : ∀ k, ∀ r ∈ p.rights k, r.isText = true
  remembered : ∃ b, p.remembered = .bool b
  linkedId : p.linkedId = .null ∨ p.linkedId.isText = true
  clientName : p.clientName = .null ∨ p.clientName.isText = true

theorem isScalar_of_isText {v : Value} (h : v.isText = true) : v.IsScalar := by
  cases v with
  | text s => trivial
  | brokenText points => trivial
  | _ => exact absurd h (by simp [Value.isText])

theorem toValue_eq_ok_iff {p : Profile} {object : Value} :
    p.toValue = .ok object ↔ ∃ attributes authentication, storedFacts p.attributes = .ok attributes
      ∧ storedFacts p.authentication = .ok authentication
      ∧ .dict (p.members attributes authentication) = object := by
  unfold toValue
  simp only [bind_eq_ok_iff, pure_eq_ok, Except.ok.injEq]
  constructor
  · rintro ⟨attributes, hattributes, authentication, hauthentication, rfl⟩
    exact ⟨attributes, authentication, hattributes, hauthentication, rfl⟩
  · rintro ⟨attributes, authentication, hattributes, hauthentication, rfl⟩
    exact ⟨attributes, hattributes, authentication, hauthentication, rfl⟩

theorem exists_toValue_iff {p : Profile} :
    (∃ object, p.toValue = .ok object) ↔
      ∀ k, ∀ f ∈ p.facts k, SequencesWithin maxListDepth f.2 := by
  simp only [toValue_eq_ok_iff]
  constructor
  · rintro ⟨_, attributes, authentication, hattributes, hauthentication, -⟩ k
    rcases k with _ | _
    · exact exists_storedFacts_iff.1 ⟨attributes, hattributes⟩
    · exact exists_storedFacts_iff.1 ⟨authentication, hauthentication⟩
  · intro h
    obtain ⟨attributes, hattributes⟩ := exists_storedFacts_iff.2 (h .attribute)
    obtain ⟨authentication, hauthentication⟩ := exists_storedFacts_iff.2 (h .authentication)
    exact ⟨_, attributes, authentication, hattributes, hauthentication, rfl⟩

theorem unwritable_members_iff {p : Profile} (hp : p.HasPlainParts)
    {attributes authentication : List (Value × Value)} :
    Unwritable true (.dict (p.members attributes authentication)) ↔
      Unwritable true (.dict attributes) ∨ Unwritable true (.dict authentication) := by
  have hname : ∀ v : Value, (v = .null ∨ v.isText = true) → ¬ Unwritable true v := by
    rintro v (rfl | hv)
    · exact Json.not_unwritable_of_isScalar (v := .null) trivial
    · exact Json.not_unwritable_of_isScalar (isScalar_of_isText hv)
  have hversion : (Value.int formatVersion).IsScalar := by
    show (Nat.toDigits 10 1).length ≤ Integer.maxDigits
    decide
  have hrights : ∀ k, ¬ Unwritable true (.list (p.rights k)) := by
    intro k h
    obtain ⟨r, hr, hright⟩ := (Json.unwritable_array_iff rfl).1 h
    exact Json.not_unwritable_of_isScalar (isScalar_of_isText (hp.rights k r hr)) hright
  constructor
  · intro h
    -- if neither store had anything, no member of the object would
    by_contra hnone
    obtain ⟨hattributes, hauthentication⟩ := not_or.1 hnone
    have hmembers := forall_mem_members (P := fun v => ¬ Unwritable true v) (p := p)
      (Json.not_unwritable_of_isScalar hversion) (hname _ (Or.inl rfl)) not_unwritable_text
      (fun b => Json.not_unwritable_of_isScalar (v := .bool b) trivial) hattributes
      hauthentication hrights hp.remembered (hname _ hp.linkedId) (hname _ hp.clientName)
    obtain ⟨e, he, hkey | hvalue⟩ := Json.unwritable_dict_iff.1 h
    · exact hkey (isScalar_of_isText (isString_members p attributes authentication e he).isText)
    · exact hmembers e he hvalue
  · rintro (h | h)
    · exact .value (e := (.text "attributes", .dict attributes)) (by simp [members]) h
    · exact .value (e := (.text "authentication_attributes", .dict authentication))
        (by simp [members]) h

/-- **The object of a profile has no JSON exactly if something in a fact has no form.** -/
theorem unwritable_toValue_iff {p : Profile} (hp : p.HasPlainParts) {object : Value}
    (h : p.toValue = .ok object) :
    Unwritable true object ↔ ∃ k, ∃ f ∈ p.facts k, Unwritable false f.2 := by
  obtain ⟨attributes, authentication, hattributes, hauthentication, rfl⟩ := toValue_eq_ok_iff.1 h
  have hkeys : ∀ k, ∀ f ∈ p.facts k, f.1.IsScalar :=
    fun k f hf => isScalar_of_isText (hp.keys k f hf)
  rw [unwritable_members_iff hp, unwritable_storedFacts_iff (hkeys .attribute) hattributes,
    unwritable_storedFacts_iff (hkeys .authentication) hauthentication]
  constructor
  · rintro (h | h)
    · exact ⟨.attribute, h⟩
    · exact ⟨.authentication, h⟩
  · rintro ⟨k, h⟩
    rcases k with _ | _
    · exact Or.inl h
    · exact Or.inr h

/-! ## Bytes -/

variable {p : Profile} {e : Encoding}

theorem bytesOf_eq_fault_iff {object : Value} {cause : Fault} :
    bytesOf e object = .error (.fault cause) ↔
      cause = .tooDeep ∧ Json.BreaksOff Json.maxDepth object := by
  have hdeep : Json.writeNested .stored Json.maxDepth object = .error .tooDeep ↔
      Json.BreaksOff Json.maxDepth object := Json.writeNested_eq_tooDeep_iff
  rw [← hdeep, bytesOf, Json.write]
  cases Json.writeNested .stored Json.maxDepth object with
  | error failure =>
    cases failure with
    | tooDeep => simp [eq_comm]
    | _ => simp
  | ok text =>
    cases h : e.encode? text with
    | none => simp [h]
    | some bytes => simp [h]

/-- Whatever is written, being ASCII, has bytes. -/
theorem exists_bytesOf_iff (he : e ∈ Encoding.ofProfiles) {object : Value} :
    (∃ bytes, bytesOf e object = .ok bytes) ↔
      ∃ text, Json.writeNested .stored Json.maxDepth object = .ok text := by
  rw [bytesOf, Json.write]
  cases h : Json.writeNested .stored Json.maxDepth object with
  | error cause =>
    cases cause with
    | _ => simp
  | ok text =>
    obtain ⟨bytes, hbytes, -⟩ :=
      Encoding.decode?_encode?_of_ascii he (Json.isAscii_of_writeNested h)
    rw [String.ofList_toList] at hbytes
    exact iff_of_true ⟨bytes, by simp [hbytes]⟩ ⟨text, rfl⟩

theorem exists_bytesOf_error_iff (he : e ∈ Encoding.ofProfiles) {object : Value}
    (h : ¬ Json.BreaksOff Json.maxDepth object) :
    (∃ failure, bytesOf e object = .error failure) ↔ Unwritable true object := by
  have hwritten : (∃ cause, Json.writeNested .stored Json.maxDepth object = .error cause) ↔
      Unwritable true object := Json.exists_writeNested_error_iff h
  rw [← hwritten, ← not_iff_not, ← exists_ok_iff, ← exists_ok_iff]
  exact exists_bytesOf_iff he

/-! ## What is told of a profile -/

/-- A profile is stored or refused unless its sequences are nested too deep or the writer breaks off
    in its object. -/
theorem serialize_ok_or_refused_iff :
    ((∃ bytes, p.serialize e = .ok bytes) ∨ ∃ reason, p.serialize e = .error (.refused reason)) ↔
      (∀ k, ∀ f ∈ p.facts k, SequencesWithin maxListDepth f.2)
        ∧ ∀ object, p.toValue = .ok object → ¬ Json.BreaksOff Json.maxDepth object := by
  rw [ok_or_refused_iff, ← exists_toValue_iff, serialize]
  cases p.toValue with
  | error cause => simp
  | ok object => simp [bytesOf_eq_fault_iff]

/-- The bytes of a profile in UTF-8 are ASCII. -/
theorem ascii_of_serialize {bytes : Bytes} (h : p.serialize .utf8 = .ok bytes) :
    ∀ b ∈ bytes, b < 0x80 := by
  obtain ⟨attributes, authentication, text, -, -, htext, hbytes⟩ := exists_of_serialize h
  rw [Json.write] at htext
  have hascii := Json.isAscii_of_writeNested htext
  have hutf8 : Text.utf8 text = bytes := Option.some.inj hbytes
  rw [← String.ofList_toList (s := text), Text.utf8_ofList_of_ascii hascii] at hutf8
  intro b hb
  exact Text.lt_of_mem_asciiBytes hascii (hutf8 ▸ hb)

/-- A profile that breaks nothing off fails exactly if something in its facts has no form. -/
theorem serialize_error_iff (hp : p.HasPlainParts) (he : e ∈ Encoding.ofProfiles)
    (hdepth : ∀ k, ∀ f ∈ p.facts k, SequencesWithin maxListDepth f.2)
    (hbreaks : ∀ object, p.toValue = .ok object → ¬ Json.BreaksOff Json.maxDepth object) :
    (∃ failure, p.serialize e = .error failure) ↔
      ∃ k, ∃ f ∈ p.facts k, Unwritable false f.2 := by
  obtain ⟨object, hobject⟩ := exists_toValue_iff.2 hdepth
  have hbytes : p.serialize e = bytesOf e object := by rw [serialize, hobject]
  rw [hbytes, exists_bytesOf_error_iff he (hbreaks object hobject)]
  exact unwritable_toValue_iff hp hobject

/-- **A profile is stored, or refused, as is told exactly if nothing is nested too deep**: it is
    never anything but stored or refused, it is refused only if something in a fact has no form,
    and then always, and its bytes in UTF-8 are ASCII. Of what is nested too deep, the writer has
    to come to it before it comes to anything that has no form. -/
theorem serialize_as_told_iff (hp : p.HasPlainParts) (he : e ∈ Encoding.ofProfiles) :
    (((∃ bytes, p.serialize e = .ok bytes) ∨ ∃ reason, p.serialize e = .error (.refused reason))
        ∧ ((∃ failure, p.serialize e = .error failure) ↔
          ∃ k, ∃ f ∈ p.facts k, Unwritable false f.2)
        ∧ ∀ bytes, p.serialize .utf8 = .ok bytes → ∀ b ∈ bytes, b < 0x80) ↔
      (∀ k, ∀ f ∈ p.facts k, SequencesWithin maxListDepth f.2)
        ∧ ∀ object, p.toValue = .ok object → ¬ Json.BreaksOff Json.maxDepth object := by
  constructor
  · rintro ⟨htold, -, -⟩
    exact serialize_ok_or_refused_iff.1 htold
  · rintro ⟨hdepth, hbreaks⟩
    exact ⟨serialize_ok_or_refused_iff.2 ⟨hdepth, hbreaks⟩,
      serialize_error_iff hp he hdepth hbreaks, fun bytes => ascii_of_serialize⟩

/-! ## Examples -/

/-- A profile with one attribute, whatever that is. -/
def withAttribute (v : Value) : Profile where
  kind := .user
  attributes := [(.text "a", v)]

theorem hasPlainParts_withAttribute (v : Value) : (withAttribute v).HasPlainParts where
  keys k := by
    rcases k with _ | _
    · simp [withAttribute, facts, Value.isText]
    · simp [withAttribute, facts]
  rights k := by
    rcases k with _ | _
    · simp [withAttribute, rights]
    · simp [withAttribute, rights]
  remembered := ⟨false, rfl⟩
  linkedId := Or.inl rfl
  clientName := Or.inl rfl

/-- So many lists in one another. -/
def nestedLists : Nat → Value
  | 0 => .null
  | n + 1 => .list [nestedLists n]

theorem not_unwritable_nestedLists (n : Nat) : ¬ Unwritable false (nestedLists n) := by
  induction n with
  | zero => exact Json.not_unwritable_of_isScalar (v := .null) trivial
  | succ n ih =>
    rw [nestedLists, Json.unwritable_array_iff rfl]
    simpa using ih

theorem storedForm_nestedLists (depth : Nat) :
    storedForm depth (nestedLists (depth + 1)) = .error .tooDeep := by
  induction depth with
  | zero => exact storedForm_sequence_zero rfl
  | succ depth ih =>
    rw [nestedLists, storedForm_sequence_succ rfl, List.mapM_cons, ih]
    rfl

/-- Lists in one another have a form however many they are, but too many of them end in a fault. -/
theorem nestedLists_not_stored :
    (withAttribute (nestedLists (maxListDepth + 1))).HasPlainParts
      ∧ (∀ k, ∀ f ∈ (withAttribute (nestedLists (maxListDepth + 1))).facts k,
        ¬ Unwritable false f.2)
      ∧ (withAttribute (nestedLists (maxListDepth + 1))).serialize .utf8
        = .error (.fault .tooDeep) := by
  refine ⟨hasPlainParts_withAttribute _, ?_, ?_⟩
  · intro k
    rcases k with _ | _
    · simpa [withAttribute, facts] using not_unwritable_nestedLists (maxListDepth + 1)
    · simp [withAttribute, facts]
  · have hstored : storedFacts (withAttribute (nestedLists (maxListDepth + 1))).attributes
        = .error .tooDeep := by
      rw [withAttribute, storedFacts, storedForm_nestedLists]
      rfl
    rw [serialize, toValue, hstored]
    rfl

/-- A set inside a mapping. -/
def hiddenSet : Value := .dict [(.text "b", .set [])]

theorem not_breaksOff_hiddenSet {object : Value}
    (h : (withAttribute hiddenSet).toValue = .ok object) :
    ¬ Json.BreaksOff Json.maxDepth object := by
  have hobject : (withAttribute hiddenSet).toValue
      = .ok (.dict ((withAttribute hiddenSet).members [(.text "a", hiddenSet)] [])) := by
    simp [toValue, withAttribute, storedFacts, storedForm, hiddenSet]
  have hversion : Json.integerText formatVersion = .ok "1" := rfl
  obtain rfl := Except.ok.inj (hobject.symm.trans h)
  have hwritten : Json.writeNested .stored Json.maxDepth
      (.dict ((withAttribute hiddenSet).members [(.text "a", hiddenSet)] []))
        = .error (.value (Value.set []).typeName) := by
    simp [Json.maxDepth, Json.writeNested, Json.writeEntries, Json.writeEntry, Json.keyText,
      hversion, members, withAttribute, hiddenSet, Value.ofText?]
    rfl
  intro hbreaks
  exact absurd (hwritten.symm.trans (Json.writeNested_eq_tooDeep_iff.2 hbreaks)) (by simp)

/-- It is refused. -/
theorem hiddenSet_refused :
    (withAttribute hiddenSet).HasPlainParts ∧ Encoding.utf8 ∈ Encoding.ofProfiles
      ∧ ∃ reason, (withAttribute hiddenSet).serialize .utf8 = .error (.refused reason) := by
  have hparts := hasPlainParts_withAttribute hiddenSet
  have hencoding : Encoding.utf8 ∈ Encoding.ofProfiles := by decide
  have hdepth : ∀ k, ∀ f ∈ (withAttribute hiddenSet).facts k,
      SequencesWithin maxListDepth f.2 := by
    intro k
    rcases k with _ | _
    · simpa [withAttribute, facts] using SequencesWithin.other rfl
    · simp [withAttribute, facts]
  have hunwritable : Unwritable false hiddenSet :=
    .value (List.mem_singleton_self _) (.set [])
  obtain ⟨htold, hfails, -⟩ := (serialize_as_told_iff hparts hencoding).2
    ⟨hdepth, fun object => not_breaksOff_hiddenSet⟩
  obtain ⟨failure, hfailure⟩ := hfails.2
    ⟨.attribute, (.text "a", hiddenSet), List.mem_singleton_self _, hunwritable⟩
  refine ⟨hparts, hencoding, htold.resolve_left ?_⟩
  rintro ⟨bytes, hbytes⟩
  exact absurd (hfailure.symm.trans hbytes) (by simp)

end Profile

end RelyingParty
