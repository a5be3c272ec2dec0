import RelyingParty.Proofs.Profile.Rules
import RelyingParty.Proofs.Profile.Survival

set_option autoImplicit false

/-! # What was read once is read again

A payload that is read need not be one that was stored: keys may be blank and values null, a tag may
have more members than it needs, identifiers and rights may be numbers, and most members may be
missing. Reading makes a profile of it that can be stored, since what is stored of a fact is made of
the form it was read from (`exists_isRestored`), and nothing is nested deeper than before. And what
is stored is read as the profile it comes from: `reread`. -/

namespace RelyingParty.Profile

/-! ## Facts -/

/-- A fact is stored as a form that JSON has, in which nothing is nested deeper than it may be, and
    is read from it again. -/
structure IsRestored (lists depth : Nat) (fact form : Value) : Prop where
  built : fact.Built fun _ => True
  stored : storedForm lists fact = .ok form
  read : ofStoredForm lists form = .ok fact
  json : form.IsJson False
  nested : Json.NestedWithin depth form

variable {lists depth : Nat}

theorem isRestored_of_plain {v fact : Value} (hv : v.IsJson False) (hplain : Plain lists v)
    (hnested : Json.NestedWithin depth v) (h : ofStoredForm lists v = .ok fact) :
    IsRestored lists depth fact v := by
  obtain ⟨hstored, hread⟩ := hplain.comes_back hv
  obtain rfl := Except.ok.inj (hread.symm.trans h)
  exact ⟨hv.built, hstored, hread, hv, hnested⟩

/-- A member is stored as its tag, whatever else was in the mapping it was read from. -/
theorem isRestored_member (lists depth : Nat) (m : Member) :
    IsRestored lists (depth + 1) (.member m) (taggedMember m) where
  built := .member m
  stored := by rw [storedForm]
  read := ofStoredForm_taggedMember lists m
  json := .dict (fun e he => (isString_tagEntries m e he).1) (nodup_tagEntries m)
    fun e he => .string (isString_tagEntries m e he).2
  nested := .dict fun e he => Json.nestedWithin_of_isString (isString_tagEntries m e he).2

/-- The elements of a list are restored one by one. -/
theorem exists_isRestored_of_mapM {xs vs : List Value}
    (hxs : ∀ x ∈ xs, ∀ v, ofStoredForm lists x = .ok v → ∃ form, IsRestored lists depth v form)
    (h : xs.mapM (ofStoredForm lists) = .ok vs) :
    ∃ forms, vs.mapM (storedForm lists) = .ok forms
      ∧ forms.mapM (ofStoredForm lists) = .ok vs
      ∧ (∀ v ∈ vs, v.Built fun _ => True)
      ∧ ∀ form ∈ forms, form.IsJson False ∧ Json.NestedWithin depth form := by
  induction xs generalizing vs with
  | nil =>
    rw [← Except.ok.inj h]
    exact ⟨[], rfl, rfl, by simp, by simp⟩
  | cons x xs ih =>
    obtain ⟨v, rest, hv, hrest, rfl⟩ := mapM_cons_eq_ok_iff.1 h
    obtain ⟨hfirst, hothers⟩ := List.forall_mem_cons.1 hxs
    obtain ⟨form, hform⟩ := hfirst v hv
    obtain ⟨forms, hstored, hread, hbuilt, hforms⟩ := ih hothers hrest
    exact ⟨form :: forms, mapM_cons_eq_ok_iff.2 ⟨form, forms, hform.stored, hstored, rfl⟩,
      mapM_cons_eq_ok_iff.2 ⟨v, rest, hform.read, hread, rfl⟩,
      List.forall_mem_cons.2 ⟨hform.built, hbuilt⟩,
      List.forall_mem_cons.2 ⟨⟨hform.json, hform.nested⟩, hforms⟩⟩

/-- **What is read from a value of JSON is stored, and read again.** -/
theorem exists_isRestored {v fact : Value} (hv : v.IsJson False)
    (hnested : Json.NestedWithin depth v) (h : ofStoredForm lists v = .ok fact) :
    ∃ form, IsRestored lists depth fact form := by
  induction hv generalizing lists depth fact with
  | null => exact ⟨_, isRestored_of_plain .null (.scalar (by simp) (by simp)) hnested h⟩
  | bool b => exact ⟨_, isRestored_of_plain (.bool b) (.scalar (by simp) (by simp)) hnested h⟩
  | int hn => exact ⟨_, isRestored_of_plain (.int hn) (.scalar (by simp) (by simp)) hnested h⟩
  | float hfloat => exact hfloat.elim
  | string hs => exact ⟨_, isRestored_of_plain (.string hs) (plain_of_isString hs) hnested h⟩
  | @list xs _ ih =>
    obtain ⟨inner, rfl, hinner⟩ := hnested.of_list
    cases lists with
    | zero => exact absurd h (by simp [ofStoredForm])
    | succ lists =>
      rw [ofStoredForm_list] at h
      obtain ⟨vs, hvs, rfl⟩ := map_eq_ok_iff.1 h
      obtain ⟨forms, hstored, hread, hbuilt, hforms⟩ :=
        exists_isRestored_of_mapM (fun x hx v hv => ih x hx (hinner x hx) hv) hvs
      refine ⟨.list forms, .list hbuilt, ?_, ?_, .list fun x hx => (hforms x hx).1,
        .list fun x hx => (hforms x hx).2⟩
      · exact storedForm_list_eq_ok_iff.2 ⟨Nat.succ_ne_zero lists, forms, hstored, rfl⟩
      · rw [ofStoredForm_list, hread]
        rfl
  | @dict entries hkeys hdistinct hvalues _ =>
    cases htag : Value.field? entries enumerationTag with
    | none =>
      exact ⟨_, isRestored_of_plain (.dict hkeys hdistinct hvalues) (.dict htag) hnested h⟩
    | some enumeration =>
      rw [ofStoredForm, htag] at h
      obtain ⟨m, rfl, -⟩ := memberOfTag_eq_ok_iff.1 h
      obtain ⟨inner, rfl, -⟩ := hnested.of_dict
      exact ⟨_, isRestored_member lists inner m⟩

/-! ## Stores of facts -/

/-- The facts of a store are stored as the members of an object of JSON, and are read from them
    again. -/
structure IsRestoredStore (depth : Nat) (facts : FactStore) (forms : List (Value × Value)) :
    Prop where
  same_self : (Value.dict facts).same (.dict facts) = true
  stored : storedFacts facts = .ok forms
  read : readFacts forms = .ok facts
  json : (Value.dict forms).IsJson False
  nested : Json.NestedWithin (depth + 1) (.dict forms)

theorem exists_forms_of_readFacts {entries : List (Value × Value)} {facts : FactStore}
    (hentries : ∀ e ∈ entries, e.2.IsJson False ∧ Json.NestedWithin depth e.2)
    (h : readFacts entries = .ok facts) :
    ∃ forms, storedFacts facts = .ok forms ∧ readFacts forms = .ok facts
      ∧ facts.keys = Entries.keys entries
      ∧ (∀ f ∈ facts, f.2.Built fun _ => True)
      ∧ ∀ f ∈ forms, f.2.IsJson False ∧ Json.NestedWithin depth f.2 := by
  induction entries generalizing facts with
  | nil =>
    rw [← Except.ok.inj h]
    exact ⟨[], rfl, rfl, rfl, by simp, by simp⟩
  | cons entry rest ih =>
    obtain ⟨⟨hjson, hnested⟩, hothers⟩ := List.forall_mem_cons.1 hentries
    obtain ⟨fact, facts', hfact, hfacts, rfl⟩ := readFacts_cons_eq_ok_iff.1 h
    obtain ⟨form, hform⟩ := exists_isRestored hjson hnested hfact
    obtain ⟨forms, hstored, hread, hkeys, hbuilt, hforms⟩ := ih hothers hfacts
    refine ⟨(entry.1, form) :: forms,
      storedFacts_cons_eq_ok_iff.2 ⟨form, forms, hform.stored, hstored, rfl⟩,
      readFacts_cons_eq_ok_iff.2 ⟨fact, facts', hform.read, hread, rfl⟩, ?_,
      List.forall_mem_cons.2 ⟨hform.built, hbuilt⟩,
      List.forall_mem_cons.2 ⟨⟨hform.json, hform.nested⟩, hforms⟩⟩
    show entry.1 :: Entries.keys facts' = entry.1 :: Entries.keys rest
    rw [hkeys]

/-- Entries under the same keys have keys of the same kind. -/
theorem forall_key_of_keys_eq {P : Value → Prop} {entries entries' : List (Value × Value)}
    (hkeys : Entries.keys entries' = Entries.keys entries) (h : ∀ e ∈ entries, P e.1) :
    ∀ e ∈ entries', P e.1 := by
  intro e he
  have hmem : e.1 ∈ Entries.keys entries := hkeys ▸ List.mem_map_of_mem he
  obtain ⟨e', he', heq⟩ := List.mem_map.1 hmem
  exact heq ▸ h e' he'

theorem exists_isRestoredStore {members : List (Value × Value)} {name : String}
    {facts : FactStore} (hmembers : (Value.dict members).IsJson False)
    (hnested : Json.NestedWithin (depth + 2) (.dict members))
    (h : readStore members name = .ok facts) : ∃ forms, IsRestoredStore depth facts forms := by
  have hfield : (Value.fieldD members name).IsJson False := hmembers.fieldD name
  have hinner : Json.NestedWithin (depth + 1) (Value.fieldD members name) := hnested.fieldD name
  unfold readStore at h
  split at h
  · next entries hentries =>
    rw [hentries] at hfield hinner
    obtain ⟨hstrings, hdistinct, hvalues⟩ := hfield.of_dict
    obtain ⟨_, hdepth, hdeep⟩ := hinner.of_dict
    obtain rfl := Nat.succ.inj hdepth
    obtain ⟨forms, hstored, hread, hkeys, hbuilt, hforms⟩ :=
      exists_forms_of_readFacts (fun e he => ⟨hvalues e he, hdeep e he⟩) h
    have hformKeys : Entries.keys forms = Entries.keys entries :=
      (keys_storedFacts hstored).trans hkeys
    refine ⟨forms, ?_, hstored, hread, ?_, .dict fun f hf => (hforms f hf).2⟩
    · exact Value.same_dict_self
        (fun f hf => (forall_key_of_keys_eq hkeys hstrings f hf).isText) (hkeys ▸ hdistinct)
        fun f hf => (hbuilt f hf).same_self
    · exact .dict (forall_key_of_keys_eq hformKeys hstrings) (hformKeys ▸ hdistinct)
        fun f hf => (hforms f hf).1
  · rw [← Except.ok.inj h]
    exact ⟨[], by simp [Value.same, Value.allUnder], rfl, rfl, .dict (by simp) .nil (by simp),
      .dict (by simp)⟩

/-! ## Rights -/

/-- The rights of a collection from JSON are from JSON, too. -/
theorem isJson_of_rightsOf {k : RightKind} {v : Value} {values : List Value}
    (hv : v.IsJson False) (h : rightsOf k v = .ok values) : ∀ r ∈ values, r.IsJson False := by
  cases hv with
  | float hfloat => exact hfloat.elim
  | string hs =>
    rcases hs with ⟨s, rfl⟩ | ⟨points, rfl, -⟩
    · exact absurd h (by simp [rightsOf])
    · exact absurd h (by simp [rightsOf])
  | @list xs hxs =>
    simp only [rightsOf, Value.elements] at h
    split at h
    · exact absurd h (by simp)
    · exact Except.ok.inj h ▸ hxs
  | @dict entries hkeys hdistinct hvalues =>
    simp only [rightsOf, Value.elements] at h
    split at h
    · exact absurd h (by simp)
    · rw [← Except.ok.inj h]
      intro r hr
      obtain ⟨e, he, rfl⟩ := List.mem_map.1 hr
      exact .string (hkeys e he)
  | _ => exact absurd h (by simp [rightsOf, Value.elements])

theorem isJson_of_readRights {k : RightKind} {v : Value} {rights : List Value}
    (hv : v.IsJson False) (h : readRights k v = .ok rights) :
    ∀ r ∈ rights, r.IsJson False ∧ r.hashable = true := by
  unfold readRights at h
  split at h
  · exact absurd h (by simp)
  · next values hvalues =>
    split at h
    · next rights' hinsert =>
      rw [← Except.ok.inj h]
      intro r hr
      rcases mem_of_mem_insertRights hinsert r hr with hnone | hr
      · exact absurd hnone (by simp)
      · exact ⟨isJson_of_rightsOf hv hvalues r hr, exists_insertRights_iff.1 ⟨_, hinsert⟩ r hr⟩
    · exact absurd h (by simp)

theorem isJson_storedRights {members : List (Value × Value)}
    (hmembers : (Value.dict members).IsJson False) (name : String) :
    (storedRights members name).IsJson False := by
  unfold storedRights
  dsimp only
  split
  · exact hmembers.fieldD name
  · exact .list (by simp)

/-- What cannot change holds nothing. -/
theorem nestedWithin_of_hashable {v : Value} (h : v.hashable = true) :
    Json.NestedWithin depth v := by
  refine .scalar ?_ ?_
  · rintro xs rfl
    exact absurd h (by simp [Value.hashable])
  · rintro entries rfl
    exact absurd h (by simp [Value.hashable])

/-! ## Profiles -/

/-- A profile from JSON: what comes back of it, and can be written as well. -/
structure IsFromJson (depth : Nat) (p : Profile) : Prop extends p.HasReadableParts where
  rightsJson : ∀ k, (Value.list (p.rights k)).IsJson False
  linkedIdJson : p.linkedId.IsJson False
  linkedIdNested : Json.NestedWithin (depth + 1) p.linkedId
  clientNameJson : p.clientName.IsJson False
  clientNameNested : Json.NestedWithin (depth + 1) p.clientName

theorem isFromJson_of_readParts {members : List (Value × Value)} {p : Profile}
    (hmembers : (Value.dict members).IsJson False)
    (hnested : Json.NestedWithin (depth + 2) (.dict members)) (h : readParts members = .ok p) :
    p.IsFromJson depth := by
  have hp := isReadFrom_of_readParts h
  have hrest := hasRestFrom_of_readParts h
  have hrights : ∀ k, ∀ r ∈ p.rights k, r.IsJson False ∧ r.hashable = true :=
    fun k => isJson_of_readRights (isJson_storedRights hmembers _) (hp.rights k)
  have hrightsJson : ∀ k, (Value.list (p.rights k)).IsJson False :=
    fun k => .list fun r hr => (hrights k r hr).1
  have hlinked : p.linkedId.IsJson False := hrest.linkedId ▸ hmembers.fieldD _
  have hclient : p.clientName.IsJson False := hrest.clientName ▸ hmembers.fieldD _
  exact {
    id := visible_of_readId hp.id
    rights := fun k =>
      ⟨(rules_of_readRights (hp.rights k)).1, (rules_of_readRights (hp.rights k)).2⟩
    hashable := fun k r hr => (hrights k r hr).2
    built := fun k => (hrightsJson k).built
    remembered := ⟨_, hrest.remembered⟩
    linkedId := hlinked.built
    clientName := hclient.built
    rightsJson := hrightsJson
    linkedIdJson := hlinked
    linkedIdNested := hrest.linkedId ▸ hnested.fieldD _
    clientNameJson := hclient
    clientNameNested := hrest.clientName ▸ hnested.fieldD _ }

section Members

variable {p : Profile} {attributes authentication : List (Value × Value)}

/-- The object of a profile from JSON is one that JSON has. -/
theorem isJson_members (hp : p.IsFromJson depth)
    (hattributes : (Value.dict attributes).IsJson False)
    (hauthentication : (Value.dict authentication).IsJson False) :
    (Value.dict (p.members attributes authentication)).IsJson False :=
  .dict (isString_members p attributes authentication)
    (nodup_keys_members p attributes authentication)
    (forall_mem_members (.int (by decide)) .null (fun s => .string (Value.isString_text s)) .bool
      hattributes hauthentication hp.rightsJson hp.remembered hp.linkedIdJson hp.clientNameJson)

theorem nestedWithin_members (hp : p.IsFromJson depth)
    (hattributes : Json.NestedWithin (depth + 1) (.dict attributes))
    (hauthentication : Json.NestedWithin (depth + 1) (.dict authentication)) :
    Json.NestedWithin (depth + 2) (.dict (p.members attributes authentication)) := by
  have hrights : ∀ k, Json.NestedWithin (depth + 1) (.list (p.rights k)) :=
    fun k => .list fun r hr => nestedWithin_of_hashable (hp.hashable k r hr)
  exact .dict (forall_mem_members (nestedWithin_of_hashable rfl) (nestedWithin_of_hashable rfl)
    (fun _ => nestedWithin_of_hashable rfl) (fun _ => nestedWithin_of_hashable rfl) hattributes
    hauthentication hrights hp.remembered hp.linkedIdNested hp.clientNameNested)

end Members

/-- Stated with a number for an identifier, a right twice, a fact without a name, and a tag with
    more in it than a tag has. -/
def irregularText : List Char :=
  userText ("\"id\": 7, \"roles\": [1, true], \"attributes\": \x7b\" \": null, \"g\": [\x7b"
    ++ "\"__enum__\": \"oidc_rp.profile.models.Gender\", \"value\": \"female\", "
    ++ "\"more\": 0\x7d]\x7d")

/-- The tag of the text. -/
def irregularTag : List (Value × Value) :=
  [(.text "__enum__", .text "oidc_rp.profile.models.Gender"), (.text "value", .text "female"),
    (.text "more", .int 0)]

/-- The members of the text, apart from those that make it a profile. -/
def irregularMembers : List (Value × Value) :=
  [(.text "id", .int 7), (.text "roles", .list [.int 1, .bool true]),
    (.text "attributes", .dict [(.text " ", .null), (.text "g", .list [.dict irregularTag])])]

/-- The profile that is read from it. -/
def regularProfile : Profile where
  kind := .user
  id := some "7"
  attributes := [(.text " ", .null), (.text "g", .list [.member (.gender .female)])]
  roles := [.int 1]

theorem read_irregularText :
    Json.read (String.ofList irregularText) = .ok (.dict (userMembers irregularMembers)) := by
  cbv

theorem readParts_irregularMembers :
    readParts (userMembers irregularMembers) = .ok regularProfile := by
  have hid : readId (Value.fieldD (userMembers irregularMembers) "id") = .ok (some "7") := by cbv
  have hroles : readRights .role (storedRights (userMembers irregularMembers) "roles")
      = .ok [.int 1] := by cbv
  have hpermissions : readRights .permission
      (storedRights (userMembers irregularMembers) "permissions") = .ok [] := by cbv
  have hattributes : readStore (userMembers irregularMembers) "attributes"
      = .ok regularProfile.attributes := by cbv
  have hauthentication : readStore (userMembers irregularMembers) "authentication_attributes"
      = .ok [] := by cbv
  have hmerges : Value.field? (userMembers irregularMembers) "merge_attributes" = none := by cbv
  have hmissing : ∀ name ∈ ["remembered", "linked_id", "client_name"],
      Value.fieldD (userMembers irregularMembers) name = .null := by
    simp only [List.forall_mem_cons, List.not_mem_nil, false_implies, implies_true, and_true]
    exact ⟨by cbv, by cbv, by cbv⟩
  simp only [List.forall_mem_cons, List.not_mem_nil, false_implies, implies_true, and_true]
    at hmissing
  obtain ⟨hremembered, hlinked, hclient⟩ := hmissing
  simp only [readParts, classOf_userMembers, hid, hroles, hpermissions, hattributes,
    hauthentication, hmerges, hremembered, hlinked, hclient, ok_bind]
  rfl

theorem isJson_irregularMembers : (Value.dict (userMembers irregularMembers)).IsJson False := by
  have hint : ∀ n ∈ [(0 : Int), 1, 7], (Value.int n).IsJson False := by
    simp only [List.forall_mem_cons, List.not_mem_nil, false_implies, implies_true, and_true]
    exact ⟨.int (by decide), .int (by decide), .int (by decide)⟩
  have htext : ∀ s, (Value.text s).IsJson False := fun s => .string (Value.isString_text s)
  have htag : (Value.dict irregularTag).IsJson False := by
    refine .dict (by simp [irregularTag, Value.isString_text]) (by simp [irregularTag,
      Entries.keys]) ?_
    simp only [irregularTag, List.forall_mem_cons, List.not_mem_nil, false_implies, implies_true,
      and_true]
    exact ⟨htext _, htext _, hint 0 (by simp)⟩
  have hfacts : (Value.dict [(.text " ", .null), (.text "g", .list [.dict irregularTag])]).IsJson
      False := by
    refine .dict (by simp [Value.isString_text]) (by simp [Entries.keys]) ?_
    simp only [List.forall_mem_cons, List.not_mem_nil, false_implies, implies_true, and_true]
    exact ⟨.null, .list (List.forall_mem_singleton.2 htag)⟩
  have hroles : (Value.list [.int 1, .bool true]).IsJson False := by
    refine .list ?_
    simp only [List.forall_mem_cons, List.not_mem_nil, false_implies, implies_true, and_true]
    exact ⟨hint 1 (by simp), .bool true⟩
  refine .dict (by simp [userMembers, irregularMembers, Value.isString_text])
    (by simp [userMembers, irregularMembers, Entries.keys]) ?_
  simp only [userMembers, irregularMembers, List.forall_mem_cons, List.not_mem_nil, false_implies,
    implies_true, and_true]
  exact ⟨hint 1 (by simp), htext _, hint 7 (by simp), hroles, hfacts⟩

end RelyingParty.Profile
