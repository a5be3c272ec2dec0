import Mathlib
import RelyingParty.Proofs.Json.Values
import RelyingParty.Proofs.Profile.Reading

set_option autoImplicit false

/-! # The rules of a profile, and profiles that are read

The operations of a profile let nothing blank in, keep every sequence as a list, never store null
and never add a right twice: `KeepsRules`. Reading a profile goes through the same operations for
the identifier and the rights, but takes the facts as they are stored. So a profile that is read
keeps to the rules exactly if no stored fact has a blank key and none is null. -/

namespace RelyingParty.Profile

/-- The identifier is visible, and so are the rights, of which none is there twice; the sequences
    among the facts are lists. -/
structure IsWellFormed (p : Profile) : Prop where
  id : ∀ s, p.id = some s → Text.isBlankText s = false
  lists : ∀ k, ∀ f ∈ p.facts k, ∀ xs, f.2.sequence? = some xs → f.2 = .list xs
  visible : ∀ k, ∀ r ∈ p.rights k, r.isBlank = false
  distinct : ∀ k, (p.rights k).Pairwise fun a b => a.same b = false

/-- All that the operations of a profile see to. -/
structure KeepsRules (p : Profile) : Prop extends p.IsWellFormed where
  keys : ∀ k, ∀ f ∈ p.facts k, f.1.isBlank = false
  present : ∀ k, ∀ f ∈ p.facts k, f.2 ≠ .null

/-! ## Identifiers and rights -/

theorem visible_of_readId {v : Value} {id : Option String} (h : readId v = .ok id) :
    ∀ s, id = some s → Text.isBlankText s = false := by
  intro s hs
  unfold readId at h
  split at h
  · rw [← Except.ok.inj h] at hs
    exact absurd hs (by simp)
  · split at h
    · exact absurd h (by simp)
    · next hvisible =>
      rw [← Except.ok.inj h] at hs
      rw [← Option.some.inj hs]
      exact isBlankText_display (Bool.eq_false_iff.2 hvisible)

theorem visible_of_rightsOf {k : RightKind} {v : Value} {values : List Value}
    (h : rightsOf k v = .ok values) : ∀ r ∈ values, r.isBlank = false := by
  unfold rightsOf at h
  split at h
  · exact absurd h (by simp)
  · exact absurd h (by simp)
  · exact absurd h (by simp)
  · exact absurd h (by simp)
  · split at h
    · exact absurd h (by simp)
    · split at h
      · exact absurd h (by simp)
      · next hvisible =>
        rw [← Except.ok.inj h]
        intro r hr
        exact Bool.eq_false_iff.2 fun hblank => hvisible (List.any_eq_true.2 ⟨r, hr, hblank⟩)

theorem rules_of_readRights {k : RightKind} {v : Value} {rights : List Value}
    (h : readRights k v = .ok rights) :
    (∀ r ∈ rights, r.isBlank = false) ∧ rights.Pairwise fun a b => a.same b = false := by
  unfold readRights at h
  split at h
  · exact absurd h (by simp)
  · next values hvalues =>
    split at h
    · next rights' hinsert =>
      rw [← Except.ok.inj h]
      refine ⟨fun r hr => ?_, pairwise_insertRights .nil hinsert⟩
      rcases mem_of_mem_insertRights hinsert r hr with hnone | hr
      · exact absurd hnone (by simp)
      · exact visible_of_rightsOf hvalues r hr
    · exact absurd h (by simp)

/-! ## Facts -/

/-- A stored form stands for itself, a tag for a member, and a list for a list. -/
theorem ofStoredForm_cases {depth : Nat} {v fact : Value} (h : ofStoredForm depth v = .ok fact) :
    fact = v ∨ (∃ entries m, v = .dict entries ∧ fact = .member m)
      ∨ ∃ xs vs, v = .list xs ∧ fact = .list vs := by
  cases v with
  | dict entries =>
    rw [ofStoredForm] at h
    split at h
    · obtain ⟨m, hm, -⟩ := memberOfTag_eq_ok_iff.1 h
      exact Or.inr (Or.inl ⟨entries, m, rfl, hm⟩)
    · exact Or.inl (Except.ok.inj h).symm
  | list xs =>
    rw [ofStoredForm] at h
    split at h
    · exact absurd h (by simp)
    · split at h
      · next vs hvs => exact Or.inr (Or.inr ⟨xs, vs, rfl, (Except.ok.inj h).symm⟩)
      · exact absurd h (by simp)
  | _ =>
    simp only [ofStoredForm] at h
    exact Or.inl (Except.ok.inj h).symm

/-- Null is read from null only. -/
theorem eq_null_iff_of_ofStoredForm {depth : Nat} {v fact : Value}
    (h : ofStoredForm depth v = .ok fact) : fact = .null ↔ v = .null := by
  rcases ofStoredForm_cases h with rfl | ⟨entries, m, rfl, rfl⟩ | ⟨xs, vs, rfl, rfl⟩
  · rfl
  · simp
  · simp

/-- A sequence among the values of JSON is a list, and a list is read as a list. -/
theorem eq_list_of_ofStoredForm {floats : Prop} {depth : Nat} {v fact : Value}
    (hv : v.IsJson floats) (h : ofStoredForm depth v = .ok fact) {xs : List Value}
    (hxs : fact.sequence? = some xs) : fact = .list xs := by
  rcases ofStoredForm_cases h with rfl | ⟨entries, m, rfl, rfl⟩ | ⟨ys, vs, rfl, rfl⟩
  · cases hv with
    | list hys => rw [Option.some.inj hxs]
    | string hs =>
      rcases hs with ⟨s, rfl⟩ | ⟨points, rfl, -⟩
      · exact absurd hxs (by simp [Value.sequence?])
      · exact absurd hxs (by simp [Value.sequence?])
    | _ => exact absurd hxs (by simp [Value.sequence?])
  · exact absurd hxs (by simp [Value.sequence?])
  · rw [Option.some.inj hxs]

/-- Facts break no rule exactly if they do not as they are stored. -/
theorem inOrder_iff_of_readFacts {entries : List (Value × Value)} {facts : FactStore}
    (h : readFacts entries = .ok facts) :
    (∀ f ∈ facts, f.1.isBlank = false ∧ f.2 ≠ .null) ↔
      ∀ e ∈ entries, e.1.isBlank = false ∧ e.2 ≠ .null := by
  constructor
  · intro hfacts e he
    obtain ⟨fact, hfact⟩ := exists_readFacts_iff.1 ⟨facts, h⟩ e he
    have hmem : (e.1, fact) ∈ facts := (mem_readFacts_iff h).2 ⟨e.2, he, hfact⟩
    obtain ⟨hkey, hvalue⟩ := hfacts _ hmem
    exact ⟨hkey, fun hnull => hvalue ((eq_null_iff_of_ofStoredForm hfact).2 hnull)⟩
  · intro hentries f hf
    obtain ⟨v, hmem, hfact⟩ := (mem_readFacts_iff h).1 hf
    obtain ⟨hkey, hvalue⟩ := hentries _ hmem
    exact ⟨hkey, fun hnull => hvalue ((eq_null_iff_of_ofStoredForm hfact).1 hnull)⟩

/-! ## Profiles -/

/-- The stored facts that break no rule: no key is blank, and no value is null. -/
def HasFactsInOrder (members : List (Value × Value)) : Prop :=
  ∀ k entries, Value.fieldD members (storeMember k) = .dict entries →
    ∀ e ∈ entries, e.1.isBlank = false ∧ e.2 ≠ .null

theorem factsInOrder_iff_of_readStore {members : List (Value × Value)} {name : String}
    {facts : FactStore} (h : readStore members name = .ok facts) :
    (∀ f ∈ facts, f.1.isBlank = false ∧ f.2 ≠ .null) ↔
      ∀ entries, Value.fieldD members name = .dict entries →
        ∀ e ∈ entries, e.1.isBlank = false ∧ e.2 ≠ .null := by
  unfold readStore at h
  split at h
  · next entries hentries =>
    rw [hentries, inOrder_iff_of_readFacts h]
    constructor
    · intro hall entries' heq
      rw [← Value.dict.inj heq]
      exact hall
    · intro hall
      exact hall entries rfl
  · next hno =>
    rw [← Except.ok.inj h]
    constructor
    · intro _ entries heq
      exact absurd heq (hno entries)
    · intro _ f hf
      exact absurd hf (by simp)

theorem lists_of_readStore {members : List (Value × Value)} {name : String} {facts : FactStore}
    {floats : Prop} (hmembers : (Value.dict members).IsJson floats)
    (h : readStore members name = .ok facts) :
    ∀ f ∈ facts, ∀ xs, f.2.sequence? = some xs → f.2 = .list xs := by
  have hjson : (Value.fieldD members name).IsJson floats := hmembers.fieldD name
  unfold readStore at h
  split at h
  · next entries hentries =>
    rw [hentries] at hjson
    obtain ⟨-, -, hvalues⟩ := hjson.of_dict
    intro f hf xs hxs
    obtain ⟨v, hmem, hfact⟩ := (mem_readFacts_iff h).1 hf
    exact eq_list_of_ofStoredForm (hvalues _ hmem) hfact hxs
  · rw [← Except.ok.inj h]
    intro f hf
    exact absurd hf (by simp)

/-- **A profile that is read is well formed, and it keeps to all rules exactly if its facts do as
    they are stored.** -/
theorem keepsRules_iff_of_deserialize {e : Encoding} {bytes : Bytes} {p : Profile}
    (h : deserialize e bytes = .ok p) :
    p.IsWellFormed ∧ ∃ members, Json.readBytes e bytes = .ok (.dict members)
      ∧ (p.KeepsRules ↔ HasFactsInOrder members) := by
  obtain ⟨members, hread, hp⟩ := exists_of_deserialize h
  have hjson : (Value.dict members).IsJson True := Json.isJson_of_readBytes hread
  have hformed : p.IsWellFormed := {
    id := visible_of_readId hp.id
    lists := fun k => lists_of_readStore hjson (hp.facts k)
    visible := fun k => (rules_of_readRights (hp.rights k)).1
    distinct := fun k => (rules_of_readRights (hp.rights k)).2 }
  have hfacts : ∀ k, (∀ f ∈ p.facts k, f.1.isBlank = false ∧ f.2 ≠ .null) ↔ _ :=
    fun k => factsInOrder_iff_of_readStore (hp.facts k)
  refine ⟨hformed, members, hread, fun hrules k => ?_, fun horder => ⟨hformed, ?_, ?_⟩⟩
  · exact (hfacts k).1 fun f hf => ⟨hrules.keys k f hf, hrules.present k f hf⟩
  · exact fun k f hf => ((hfacts k).2 (horder k) f hf).1
  · exact fun k f hf => ((hfacts k).2 (horder k) f hf).2

/-! ## One attribute -/

/-- A user with one attribute. -/
def userWith (v : Value) : Profile := { kind := .user, attributes := [(.text "a", v)] }

def attributeMember (v : Value) : List (Value × Value) :=
  [(.text "attributes", .dict [(.text "a", v)])]

theorem readParts_attributeMember {v : Value} (hv : ofStoredForm maxListDepth v = .ok v) :
    readParts (userMembers (attributeMember v)) = .ok (userWith v) := by
  have hfacts : Value.fieldD (userMembers (attributeMember v)) "attributes"
      = .dict [(.text "a", v)] := by cbv
  have hmerges : Value.field? (userMembers (attributeMember v)) "merge_attributes" = none := by
    cbv
  have hmissing : ∀ name ∈ ["id", "roles", "permissions", "authentication_attributes",
      "remembered", "linked_id", "client_name"],
      Value.fieldD (userMembers (attributeMember v)) name = .null := by
    simp only [List.forall_mem_cons, List.not_mem_nil, false_implies, implies_true, and_true]
    exact ⟨by cbv, by cbv, by cbv, by cbv, by cbv, by cbv, by cbv⟩
  simp only [List.forall_mem_cons, List.not_mem_nil, false_implies, implies_true, and_true]
    at hmissing
  obtain ⟨hid, hroles, hpermissions, hauthentication, hremembered, hlinked, hclient⟩ := hmissing
  have hfact : readFacts [(.text "a", v)] = .ok [(.text "a", v)] :=
    readFacts_cons_eq_ok_iff.2 ⟨v, [], hv, rfl, rfl⟩
  simp only [readParts, classOf_userMembers, hid, storedRights, hroles, hpermissions, readStore,
    hfacts, hauthentication, hremembered, hlinked, hclient, hmerges, hfact, ok_bind]
  rfl

theorem read_attribute_one :
    Json.read (String.ofList (userText "\"attributes\": \x7b\"a\": 1\x7d"))
      = .ok (.dict (userMembers (attributeMember (.int 1)))) := by
  cbv

theorem read_attribute_null :
    Json.read (String.ofList (userText "\"attributes\": \x7b\"a\": null\x7d"))
      = .ok (.dict (userMembers (attributeMember .null))) := by
  cbv

theorem deserialize_attribute_one :
    deserialize .utf8 (Text.asciiBytes (userText "\"attributes\": \x7b\"a\": 1\x7d"))
      = .ok (userWith (.int 1)) :=
  (deserialize_userText (by decide) read_attribute_one).trans
    (readParts_attributeMember (by simp only [ofStoredForm]))

/-- An attribute that is in order is read. -/
theorem keepsRules_attribute_one :
    deserialize .utf8 (Text.asciiBytes (userText "\"attributes\": \x7b\"a\": 1\x7d"))
        = .ok (userWith (.int 1))
      ∧ (userWith (.int 1)).KeepsRules := by
  obtain ⟨-, members, hread, hrules⟩ := keepsRules_iff_of_deserialize deserialize_attribute_one
  rw [Json.readBytes_asciiBytes (by decide), read_attribute_one] at hread
  obtain rfl := Value.dict.inj (Except.ok.inj hread)
  refine ⟨deserialize_attribute_one, hrules.2 fun k entries hentries => ?_⟩
  match k with
  | .attribute =>
    have hfacts : Value.fieldD (userMembers (attributeMember (.int 1))) "attributes"
        = .dict [(.text "a", .int 1)] := by cbv
    rw [← Value.dict.inj (hfacts.symm.trans hentries), List.forall_mem_singleton]
    exact ⟨by decide, by simp⟩
  | .authentication =>
    have hnone : Value.fieldD (userMembers (attributeMember (.int 1)))
        "authentication_attributes" = .null := by cbv
    exact absurd (hnone.symm.trans hentries) (by simp)

/-- An attribute that is null is read as well. -/
theorem reads_attribute_null :
    deserialize .utf8 (Text.asciiBytes (userText "\"attributes\": \x7b\"a\": null\x7d"))
        = .ok (userWith .null)
      ∧ ¬ (userWith .null).KeepsRules := by
  refine ⟨(deserialize_userText (by decide) read_attribute_null).trans
    (readParts_attributeMember (by simp only [ofStoredForm])), fun hrules => ?_⟩
  exact hrules.present .attribute (.text "a", .null) (List.mem_singleton_self _) rfl

end RelyingParty.Profile
