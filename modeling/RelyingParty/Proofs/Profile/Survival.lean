import RelyingParty.Proofs.Json.Nesting
import RelyingParty.Proofs.Profile.RoundTrip

set_option autoImplicit false

/-! # Facts from JSON that survive being stored

A fact from JSON is stored as it is. It comes back as the same fact unless it looks like a tag,
which stands for a member of an enumeration or for nothing, or is nested too deep: `Plain` and
`NestedWithin` say so, and `survives_iff` says it of the facts of a whole profile. -/

namespace RelyingParty

/-! ## Equality of facts -/

namespace Value

theorem forall_of_allUnder {xs ys : List (Value × Value)} (h : allUnder xs ys = true) :
    ∀ e ∈ xs, hasEntry e ys = true := by
  induction xs with
  | nil => simp
  | cons x xs ih =>
    rw [allUnder, Bool.and_eq_true] at h
    exact List.forall_mem_cons.2 ⟨h.1, ih h.2⟩

/-- Mappings that are the same have the same value under each key. -/
theorem same_of_mem_of_same_dict {xs ys : List (Value × Value)}
    (htext : ∀ e ∈ ys, e.1.isText = true) (hdistinct : (Entries.keys ys).Nodup)
    (h : (Value.dict xs).same (.dict ys) = true) {key v w : Value} (hx : (key, w) ∈ xs)
    (hy : (key, v) ∈ ys) : w.same v = true := by
  rw [same, Bool.and_eq_true] at h
  have hentry : hasEntry (key, w) ys = true := forall_of_allUnder h.2 _ hx
  have hfound : ys.find? (fun e => key.same e.1) = some (key, v) :=
    find?_of_mem htext hdistinct hy
  rw [hasEntry, hfound] at hentry
  exact hentry

end Value

namespace Profile

/-! ## One fact -/

/-- Values without anything that looks like a tag, in which lists are nested at most so deep. What
    is inside a mapping is not looked at. -/
inductive Plain : Nat → Value → Prop
  | scalar {depth : Nat} {v : Value} (hlist : ∀ xs, v ≠ .list xs)
    (hdict : ∀ entries, v ≠ .dict entries) : Plain depth v
  | dict {depth : Nat} {entries : List (Value × Value)}
    (h : Value.field? entries enumerationTag = none) : Plain depth (.dict entries)
  | list {depth : Nat} {xs : List Value} (h : ∀ x ∈ xs, Plain depth x) :
    Plain (depth + 1) (.list xs)

theorem plain_of_isString {depth : Nat} {v : Value} (hv : v.IsString) : Plain depth v := by
  rcases hv with ⟨s, rfl⟩ | ⟨points, rfl, -⟩
  · exact .scalar (by simp) (by simp)
  · exact .scalar (by simp) (by simp)

theorem storedForms_eq_mapM (depth : Nat) (xs : List Value) :
    storedForms depth xs = xs.mapM (storedForm depth) := by
  induction xs with
  | nil => rw [storedForms, List.mapM_nil, pure_eq_ok]
  | cons x xs ih =>
    rw [storedForms, List.mapM_cons, ih]
    cases storedForm depth x with
    | error cause => rfl
    | ok v =>
      cases xs.mapM (storedForm depth) with
      | error cause => rfl
      | ok vs => rfl

theorem storedForm_list_eq_ok_iff {depth : Nat} {xs : List Value} {form : Value} :
    storedForm depth (.list xs) = .ok form ↔
      depth ≠ 0 ∧ ∃ vs, xs.mapM (storedForm (depth - 1)) = .ok vs ∧ .list vs = form := by
  rw [storedForm, ← storedForms_eq_mapM]
  by_cases hdepth : depth = 0
  · simp [hdepth]
  · rw [if_neg hdepth]
    cases storedForms (depth - 1) xs with
    | error cause => simp
    | ok vs => simp [hdepth]

theorem eq_self_of_storedForm {v form : Value} (hv : v.IsJson False) {depth : Nat}
    (h : storedForm depth v = .ok form) : form = v := by
  induction hv generalizing depth form with
  | string hs =>
    rcases hs with ⟨s, rfl⟩ | ⟨points, rfl, -⟩
    · rw [storedForm] at h
      exact (Except.ok.inj h).symm
      all_goals simp
    · rw [storedForm] at h
      exact (Except.ok.inj h).symm
      all_goals simp
  | float hfloat => exact hfloat.elim
  | list _ ih =>
    obtain ⟨-, vs, hvs, rfl⟩ := storedForm_list_eq_ok_iff.1 h
    rw [eq_self_of_mapM (fun x hx y hy => ih x hx hy) hvs]
  | _ =>
    simp only [storedForm] at h
    exact (Except.ok.inj h).symm

/-- **What is plain is stored and comes back as it is.** -/
theorem Plain.comes_back {v : Value} (hv : v.IsJson False) {depth : Nat} (h : Plain depth v) :
    storedForm depth v = .ok v ∧ ofStoredForm depth v = .ok v := by
  induction hv generalizing depth with
  | null => exact ⟨by simp only [storedForm], by simp only [ofStoredForm]⟩
  | bool b => exact ⟨by simp only [storedForm], by simp only [ofStoredForm]⟩
  | int hn => exact ⟨by simp only [storedForm], by simp only [ofStoredForm]⟩
  | float hfloat => exact hfloat.elim
  | string hs =>
    rcases hs with ⟨s, rfl⟩ | ⟨points, rfl, -⟩
    · exact ⟨by simp only [storedForm], by simp only [ofStoredForm]⟩
    · exact ⟨by simp only [storedForm], by simp only [ofStoredForm]⟩
  | @list xs _ ih =>
    cases h with
    | scalar hlist hdict => exact absurd rfl (hlist xs)
    | @list depth _ hxs =>
      have hstored : xs.mapM (storedForm depth) = .ok xs :=
        mapM_eq_self fun x hx => (ih x hx (hxs x hx)).1
      have hread : xs.mapM (ofStoredForm depth) = .ok xs :=
        mapM_eq_self fun x hx => (ih x hx (hxs x hx)).2
      refine ⟨storedForm_list_eq_ok_iff.2 ⟨Nat.succ_ne_zero depth, xs, hstored, rfl⟩, ?_⟩
      rw [ofStoredForm_list, hread]
      rfl
  | @dict entries _ _ _ _ =>
    cases h with
    | scalar hlist hdict => exact absurd rfl (hdict entries)
    | dict hnone => exact ⟨by simp only [storedForm], by rw [ofStoredForm, hnone]⟩

/-- Values that are the same as what they come from are so one by one. -/
theorem exists_same_of_mapM {f : Value → Except (Failure StorageError) Value} {xs vs : List Value}
    (h : xs.mapM f = .ok vs) (hsame : Value.sameList vs xs = true) :
    ∀ x ∈ xs, ∃ v, f x = .ok v ∧ v.same x = true := by
  induction xs generalizing vs with
  | nil => simp
  | cons x xs ih =>
    obtain ⟨v, rest, hv, hrest, rfl⟩ := mapM_cons_eq_ok_iff.1 h
    rw [Value.sameList, Bool.and_eq_true] at hsame
    exact List.forall_mem_cons.2 ⟨⟨v, hv, hsame.1⟩, ih hrest hsame.2⟩

/-- A tag stands for something else. -/
theorem plain_of_same_dict {depth : Nat} {entries : List (Value × Value)} {fact : Value}
    (h : ofStoredForm depth (.dict entries) = .ok fact)
    (hsame : fact.same (.dict entries) = true) : Plain depth (.dict entries) := by
  cases hfield : Value.field? entries enumerationTag with
  | none => exact .dict hfield
  | some enumeration =>
    rw [ofStoredForm, hfield] at h
    obtain ⟨m, rfl, -⟩ := memberOfTag_eq_ok_iff.1 h
    exact absurd hsame (by simp [Value.same])

/-- What comes back the same is plain. -/
theorem plain_of_same {depth : Nat} {v fact : Value} (h : ofStoredForm depth v = .ok fact)
    (hsame : fact.same v = true) : Plain depth v := by
  -- on the depth, as a list is read with one level less for its elements
  induction depth generalizing v fact with
  | zero =>
    rcases form_cases v with ⟨xs, rfl⟩ | ⟨entries, rfl⟩ | ⟨hlist, hdict⟩
    · exact absurd h (by simp [ofStoredForm])
    · exact plain_of_same_dict h hsame
    · exact .scalar hlist hdict
  | succ depth ih =>
    rcases form_cases v with ⟨xs, rfl⟩ | ⟨entries, rfl⟩ | ⟨hlist, hdict⟩
    · rw [ofStoredForm_list] at h
      obtain ⟨vs, hvs, rfl⟩ := map_eq_ok_iff.1 h
      rw [Value.same] at hsame
      refine .list fun x hx => ?_
      obtain ⟨fact, hfact, hx⟩ := exists_same_of_mapM hvs hsame x hx
      exact ih hfact hx
    · exact plain_of_same_dict h hsame
    · exact .scalar hlist hdict

/-! ## Stores of facts -/

theorem eq_self_of_storedFacts {facts : FactStore} (hfacts : ∀ f ∈ facts, f.2.IsJson False)
    {forms : List (Value × Value)} (h : storedFacts facts = .ok forms) : forms = facts := by
  induction facts generalizing forms with
  | nil => exact (Except.ok.inj h).symm
  | cons fact rest ih =>
    obtain ⟨hfact, hrest⟩ := List.forall_mem_cons.1 hfacts
    obtain ⟨form, forms', hform, hforms, rfl⟩ := storedFacts_cons_eq_ok_iff.1 h
    rw [eq_self_of_storedForm hfact hform, ih hrest hforms]

theorem facts_come_back {facts : FactStore}
    (hfacts : ∀ f ∈ facts, f.2.IsJson False ∧ Plain maxListDepth f.2) :
    storedFacts facts = .ok facts ∧ readFacts facts = .ok facts := by
  induction facts with
  | nil => exact ⟨rfl, rfl⟩
  | cons fact rest ih =>
    obtain ⟨⟨hjson, hplain⟩, hrest⟩ := List.forall_mem_cons.1 hfacts
    obtain ⟨hstored, hread⟩ := hplain.comes_back hjson
    obtain ⟨hstoreds, hreads⟩ := ih hrest
    exact ⟨storedFacts_cons_eq_ok_iff.2 ⟨fact.2, rest, hstored, hstoreds, rfl⟩,
      readFacts_cons_eq_ok_iff.2 ⟨fact.2, rest, hread, hreads, rfl⟩⟩

/-- Facts that are the same when they come back are plain. -/
theorem plain_of_same_facts {facts read : FactStore} (hfacts : (Value.dict facts).IsJson False)
    (h : readFacts facts = .ok read) (hsame : (Value.dict read).same (.dict facts) = true) :
    ∀ f ∈ facts, Plain maxListDepth f.2 := by
  obtain ⟨hkeys, hdistinct, -⟩ := hfacts.of_dict
  intro f hf
  obtain ⟨fact, hfact⟩ := exists_readFacts_iff.1 ⟨read, h⟩ f hf
  have hmem : (f.1, fact) ∈ read := (mem_readFacts_iff h).2 ⟨f.2, hf, hfact⟩
  have hentry : fact.same f.2 = true :=
    Value.same_of_mem_of_same_dict (fun e he => (hkeys e he).isText) hdistinct hsame hmem hf
  exact plain_of_same hfact hentry

/-! ## Profiles -/

/-- A profile can be stored, and what is read again says the same. -/
def Survives (e : Encoding) (p : Profile) : Prop :=
  ∃ bytes q, p.serialize e = .ok bytes ∧ deserialize e bytes = .ok q ∧ q.equals p = true

theorem exists_writeNested_of_name {depth : Nat} {v : Value} (h : v = .null ∨ v.IsString) :
    ∃ text, Json.writeNested .stored depth v = .ok text := by
  rcases h with rfl | hv
  · exact ⟨_, by rw [Json.writeNested]⟩
  · exact Json.exists_writeNested_of_isString hv

theorem exists_writeNested_of_rights {depth : Nat} {rights : List Value}
    (h : IsStorableRights rights) :
    ∃ text, Json.writeNested .stored (depth + 1) (.list rights) = .ok text :=
  Json.exists_writeNested_list_iff.2
    fun r hr => Json.exists_writeNested_of_isString (h.strings r hr)

theorem exists_writeNested_facts_iff (depth : Nat) {facts : FactStore}
    (h : (Value.dict facts).IsJson False) :
    (∃ text, Json.writeNested .stored (depth + 1) (.dict facts) = .ok text) ↔
      ∀ f ∈ facts, Json.NestedWithin depth f.2 := by
  obtain ⟨hkeys, -, hvalues⟩ := h.of_dict
  rw [Json.exists_writeNested_dict_iff hkeys]
  exact forall₂_congr fun f hf => Json.exists_writeNested_iff (hvalues f hf)

variable {p : Profile}

/-- What a profile holds besides its facts is never nested too deep. -/
theorem exists_write_members_iff (hp : p.HasStorableParts)
    (hfacts : ∀ k, (Value.dict (p.facts k)).IsJson False) :
    (∃ text, Json.write .stored (.dict (p.members p.attributes p.authentication)) = .ok text) ↔
      ∀ k, ∀ f ∈ p.facts k, Json.NestedWithin (Json.maxDepth - 2) f.2 := by
  -- the object of the profile and the store in it take one level each
  have hdepth : Json.maxDepth = Json.maxDepth - 2 + 1 + 1 := rfl
  have hversion : ∃ text, Json.writeNested .stored (Json.maxDepth - 2 + 1) (.int formatVersion)
      = .ok text := ⟨"1", by rw [Json.writeNested]; rfl⟩
  have hbool : ∀ b, ∃ text, Json.writeNested .stored (Json.maxDepth - 2 + 1) (.bool b)
      = .ok text := fun b => ⟨_, by rw [Json.writeNested]⟩
  have hid : Value.ofText? p.id = .null ∨ (Value.ofText? p.id).IsString := by
    cases p.id with
    | none => exact Or.inl rfl
    | some s => exact Or.inr (Value.isString_text s)
  obtain ⟨b, hremembered⟩ := hp.remembered
  have hattributes := exists_writeNested_facts_iff (Json.maxDepth - 2) (hfacts .attribute)
  have hauthentication := exists_writeNested_facts_iff (Json.maxDepth - 2) (hfacts .authentication)
  rw [Json.write, hdepth, Json.exists_writeNested_dict_iff (isString_members p _ _)]
  simp only [members, List.forall_mem_cons, List.not_mem_nil, false_implies, implies_true,
    and_true]
  constructor
  · rintro ⟨-, -, -, -, hfirst, hsecond, -⟩ k
    rcases k with _ | _
    · exact hattributes.1 hfirst
    · exact hauthentication.1 hsecond
  · intro h
    exact ⟨hversion, exists_writeNested_of_name (Or.inr (Value.isString_text _)),
      exists_writeNested_of_name hid, hbool _, hattributes.2 (h .attribute),
      hauthentication.2 (h .authentication), exists_writeNested_of_rights hp.roles,
      exists_writeNested_of_rights hp.permissions, hremembered ▸ hbool b,
      exists_writeNested_of_name hp.linkedId, exists_writeNested_of_name hp.clientName⟩

theorem deserialize_eq_of_write (hp : p.HasStorableParts)
    (hfacts : ∀ k, (Value.dict (p.facts k)).IsJson False) {e : Encoding}
    (he : e ∈ Encoding.ofProfiles) {text : String} {bytes : Bytes}
    (htext : Json.write .stored (.dict (p.members p.attributes p.authentication)) = .ok text)
    (hbytes : e.encode? text = some bytes) :
    deserialize e bytes = (readFacts p.attributes >>= fun attributes =>
      readFacts p.authentication >>= fun authentication =>
        .ok { p with attributes, authentication, notes := [] }) := by
  have hbuilt := built_members_of_parts hp.readable (hfacts .attribute).built
    (hfacts .authentication).built
  rw [deserialize, Json.readBytes_of_write he hbuilt htext hbytes]
  exact ofMembers_members_eq hp.readable

theorem plain_of_survives (hp : p.HasStorableParts)
    (hfacts : ∀ k, (Value.dict (p.facts k)).IsJson False) {e : Encoding}
    (he : e ∈ Encoding.ofProfiles) (h : p.Survives e) :
    ∀ k, ∀ f ∈ p.facts k, Plain maxListDepth f.2 ∧ Json.NestedWithin (Json.maxDepth - 2) f.2 := by
  obtain ⟨bytes, q, hserialize, hdeserialize, hequals⟩ := h
  -- what is in the bytes are the facts themselves, not tagged forms of them
  obtain ⟨attributes, authentication, text, hattributes, hauthentication, htext, hbytes⟩ :=
    exists_of_serialize hserialize
  obtain rfl := eq_self_of_storedFacts (hfacts .attribute).of_dict.2.2 hattributes
  obtain rfl := eq_self_of_storedFacts (hfacts .authentication).of_dict.2.2 hauthentication
  rw [deserialize_eq_of_write hp hfacts he htext hbytes] at hdeserialize
  simp only [bind_eq_ok_iff, Except.ok.injEq] at hdeserialize
  obtain ⟨read, hread, read', hread', rfl⟩ := hdeserialize
  obtain ⟨hsame, hsame'⟩ := (equals_of_facts hp.readable []).1 hequals
  intro k f hf
  refine ⟨?_, (exists_write_members_iff hp hfacts).1 ⟨text, htext⟩ k f hf⟩
  match k with
  | .attribute => exact plain_of_same_facts (hfacts .attribute) hread hsame f hf
  | .authentication => exact plain_of_same_facts (hfacts .authentication) hread' hsame' f hf

/-- A profile whose facts are stored as they are has bytes unless they are nested too deep. -/
theorem exists_serialize_of_nestedWithin (hp : p.HasStorableParts)
    (hfacts : ∀ k, (Value.dict (p.facts k)).IsJson False) {e : Encoding}
    (he : e ∈ Encoding.ofProfiles) (hstored : ∀ k, storedFacts (p.facts k) = .ok (p.facts k))
    (hnested : ∀ k, ∀ f ∈ p.facts k, Json.NestedWithin (Json.maxDepth - 2) f.2) :
    ∃ bytes, p.serialize e = .ok bytes
      ∧ deserialize e bytes = (readFacts p.attributes >>= fun attributes =>
          readFacts p.authentication >>= fun authentication =>
            .ok { p with attributes, authentication, notes := [] }) := by
  have hobject : p.toValue = .ok (.dict (p.members p.attributes p.authentication)) :=
    bind_eq_ok_iff.2 ⟨_, hstored .attribute, bind_eq_ok_iff.2 ⟨_, hstored .authentication, rfl⟩⟩
  have hbuilt := built_members_of_parts hp.readable (hfacts .attribute).built
    (hfacts .authentication).built
  obtain ⟨text, htext⟩ := (exists_write_members_iff hp hfacts).2 hnested
  obtain ⟨bytes, hbytes, -⟩ :=
    Encoding.decode?_encode?_of_ascii he (Json.isAscii_of_write hbuilt htext)
  rw [String.ofList_toList] at hbytes
  exact ⟨bytes, serialize_of_write hobject htext hbytes,
    deserialize_eq_of_write hp hfacts he htext hbytes⟩

theorem survives_of_plain (hp : p.HasStorableParts)
    (hfacts : ∀ k, (Value.dict (p.facts k)).IsJson False) {e : Encoding}
    (he : e ∈ Encoding.ofProfiles)
    (h : ∀ k, ∀ f ∈ p.facts k,
      Plain maxListDepth f.2 ∧ Json.NestedWithin (Json.maxDepth - 2) f.2) : p.Survives e := by
  have hback : ∀ k, storedFacts (p.facts k) = .ok (p.facts k)
      ∧ readFacts (p.facts k) = .ok (p.facts k) := by
    intro k
    exact facts_come_back fun f hf => ⟨(hfacts k).of_dict.2.2 f hf, (h k f hf).1⟩
  have hread : readFacts p.attributes = .ok p.attributes := (hback .attribute).2
  have hread' : readFacts p.authentication = .ok p.authentication := (hback .authentication).2
  obtain ⟨bytes, hserialize, hdeserialize⟩ := exists_serialize_of_nestedWithin hp hfacts he
    (fun k => (hback k).1) fun k f hf => (h k f hf).2
  refine ⟨bytes, { p with notes := [] }, hserialize, ?_, ?_⟩
  · rw [hdeserialize, hread, hread']
    rfl
  · exact (equals_of_facts hp.readable []).2
      ⟨(hfacts .attribute).built.same_self, (hfacts .authentication).built.same_self⟩

/-- **A profile with facts from JSON survives exactly if none of them looks like a tag or is nested
    too deep.** -/
theorem survives_iff (hp : p.HasStorableParts)
    (hfacts : ∀ k, (Value.dict (p.facts k)).IsJson False) {e : Encoding}
    (he : e ∈ Encoding.ofProfiles) :
    p.Survives e ↔
      ∀ k, ∀ f ∈ p.facts k, Plain maxListDepth f.2 ∧ Json.NestedWithin (Json.maxDepth - 2) f.2 :=
  ⟨plain_of_survives hp hfacts he, survives_of_plain hp hfacts he⟩

end Profile

end RelyingParty
