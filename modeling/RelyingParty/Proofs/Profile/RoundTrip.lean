import RelyingParty.Profile.Comparison
import RelyingParty.Proofs.Json.RoundTrip
import RelyingParty.Proofs.Profile.Reading
import RelyingParty.Proofs.Profile.StoredFacts

set_option autoImplicit false

/-! # Stored profiles come back

`deserialize_serialize`: a profile that can be stored at all is read back from its bytes, in each of
the encodings, with its class, its facts and its rights in their order, and it is stored as the same
bytes again. Only what an application has noted under names of its own is not stored.

The proof goes through the object of a profile: its members are distinct, so that each is found
under its name (`fieldD_members`), rights are added to none one by one, and facts come back by
`readFacts_storedFacts`. -/

namespace RelyingParty

/-! ## Typed identifiers -/

/-- A text is divided at the first separator. -/
theorem divideText_append {separator : Char} {before after : String}
    (h : before.toList.all (· != separator) = true) :
    divideText separator (before ++ String.singleton separator ++ after) = (before, after) := by
  have hbefore : ∀ c ∈ before.toList, (c != separator) = true := List.all_eq_true.1 h
  have hlist : (before ++ String.singleton separator ++ after).toList
      = before.toList ++ separator :: after.toList := by
    simp
  rw [divideText, hlist, List.takeWhile_append_of_pos hbefore, List.dropWhile_append_of_pos hbefore]
  simp

namespace Profile

/-- A typed identifier is divided into the class and the identifier. -/
theorem divideText_typedId (p : Profile) :
    divideText typedIdSeparator p.typedId = (p.kind.storedName, p.id.getD "None") := by
  refine divideText_append ?_
  cases p.kind with
  | user => decide
  | common => decide
  | oidc => decide

/-! ## Rights -/

/-- Rights that are strings, none of which is blank or there twice. -/
structure IsStorableRights (rights : List Value) : Prop where
  strings : ∀ r ∈ rights, r.IsString
  visible : ∀ r ∈ rights, r.isBlank = false
  distinct : rights.Nodup

theorem IsStorableRights.inOrder {rights : List Value} (h : IsStorableRights rights) :
    RightsInOrder rights where
  visible := h.visible
  distinct := h.distinct.imp_of_mem fun hr _ hne =>
    Value.beq_eq_false_of_isText (h.strings _ hr).isText hne

/-- Rights that are not there yet are added at the end, in their order. -/
theorem insertRights_eq_append {rights new : List Value}
    (hhashable : ∀ r ∈ new, r.hashable = true)
    (hdistinct : (rights ++ new).Pairwise fun a b => a.same b = false) :
    insertRights rights new = (.ok (), rights ++ new) := by
  induction new generalizing rights with
  | nil => rw [insertRights, List.append_nil]
  | cons r rest ih =>
    obtain ⟨hr, hrest⟩ := List.forall_mem_cons.1 hhashable
    have hfresh : rights.any (·.same r) = false := by
      rw [List.any_eq_false]
      intro r' hr'
      have hdiffers : r'.same r = false :=
        (List.pairwise_append.1 hdistinct).2.2 r' hr' r (List.mem_cons_self ..)
      simp [hdiffers]
    have hstep : insertRight rights r = .ok (rights ++ [r]) := by
      rw [insertRight, hr, hfresh]
      rfl
    -- the induction goes on with one right more among those that are there
    have happend : rights ++ r :: rest = rights ++ [r] ++ rest := by simp
    rw [insertRights, hstep]
    rw [happend] at hdistinct ⊢
    exact ih hrest hdistinct

/-- The rights of a list are read in their order. -/
theorem readRights_list (k : RightKind) {rights : List Value}
    (hhashable : ∀ r ∈ rights, r.hashable = true) (h : RightsInOrder rights) :
    readRights k (.list rights) = .ok rights := by
  have hvisible : rights.any Value.isBlank = false := by
    rw [List.any_eq_false]
    exact fun r hr => Bool.eq_false_iff.1 (h.visible r hr)
  have hrights : rightsOf k (.list rights) = .ok rights := by
    simp only [rightsOf, Value.elements, hvisible, if_neg Bool.false_ne_true]
  have hinsert : insertRights [] rights = (.ok (), rights) :=
    insertRights_eq_append hhashable h.distinct
  simp only [readRights, hrights, hinsert]

theorem readId_ofText? {id : Option String} (h : ∀ s, id = some s → Text.isBlankText s = false) :
    readId (Value.ofText? id) = .ok id := by
  cases id with
  | none => rfl
  | some s =>
    have hvisible : (Value.text s).isBlank = false := h s rfl
    rw [Value.ofText?, readId, hvisible]
    rfl

/-! ## Objects -/

/-- What can be stored: everything in a profile is what its operations accept, facts and rights are
    made of strings, and the rest is what its properties are meant to hold. -/
structure IsStorable (p : Profile) : Prop where
  id : ∀ s, p.id = some s → Text.isBlankText s = false
  attributes : IsStorableStore p.attributes
  authentication : IsStorableStore p.authentication
  roles : IsStorableRights p.roles
  permissions : IsStorableRights p.permissions
  remembered : ∃ b, p.remembered = .bool b
  linkedId : p.linkedId = .null ∨ p.linkedId.IsString
  clientName : p.clientName = .null ∨ p.clientName.IsString

/-- What can be stored of a profile, apart from its facts. -/
structure HasStorableParts (p : Profile) : Prop where
  id : ∀ s, p.id = some s → Text.isBlankText s = false
  roles : IsStorableRights p.roles
  permissions : IsStorableRights p.permissions
  remembered : ∃ b, p.remembered = .bool b
  linkedId : p.linkedId = .null ∨ p.linkedId.IsString
  clientName : p.clientName = .null ∨ p.clientName.IsString

theorem IsStorable.parts {p : Profile} (h : p.IsStorable) : p.HasStorableParts where
  id := h.id
  roles := h.roles
  permissions := h.permissions
  remembered := h.remembered
  linkedId := h.linkedId
  clientName := h.clientName

/-- A name that may be missing is a built value. -/
theorem built_of_name {v : Value} (h : v = .null ∨ v.IsString) : v.Built fun _ => True := by
  rcases h with rfl | h
  · exact .null
  · exact .string h

/-- What comes back of a profile apart from its facts, if it can be stored. -/
structure HasReadableParts (p : Profile) : Prop where
  id : ∀ s, p.id = some s → Text.isBlankText s = false
  rights : ∀ k, RightsInOrder (p.rights k)
  hashable : ∀ k, ∀ r ∈ p.rights k, r.hashable = true
  built : ∀ k, (Value.list (p.rights k)).Built fun _ => True
  remembered : ∃ b, p.remembered = .bool b
  linkedId : p.linkedId.Built fun _ => True
  clientName : p.clientName.Built fun _ => True

theorem HasStorableParts.readable {p : Profile} (h : p.HasStorableParts) :
    p.HasReadableParts := by
  have hrights : ∀ k, IsStorableRights (p.rights k)
    | .role => h.roles
    | .permission => h.permissions
  exact {
    id := h.id
    rights := fun k => (hrights k).inOrder
    hashable := fun k r hr => Value.hashable_of_isText ((hrights k).strings r hr).isText
    built := fun k => .list fun r hr => .string ((hrights k).strings r hr)
    remembered := h.remembered
    linkedId := built_of_name h.linkedId
    clientName := built_of_name h.clientName }

/-- The names of the members of a stored profile. -/
def memberNames : List String :=
  ["version", "typed_id", "id", "merge_attributes", "attributes", "authentication_attributes",
   "roles", "permissions", "remembered", "linked_id", "client_name"]

section Members

variable (p : Profile) (attributes authentication : List (Value × Value))

theorem keys_members :
    Entries.keys (p.members attributes authentication) = memberNames.map Value.text := rfl

theorem nodup_keys_members : (Entries.keys (p.members attributes authentication)).Nodup := by
  rw [keys_members]
  have hnames : memberNames.Nodup := by decide
  exact List.Pairwise.map _ (fun _ _ hne heq => hne (Value.text.inj heq)) hnames

theorem isString_members :
    ∀ e ∈ p.members attributes authentication, e.1.IsString := by
  intro e he
  have hmem : e.1 ∈ memberNames.map Value.text := by
    rw [← keys_members p attributes authentication]
    exact List.mem_map_of_mem he
  obtain ⟨name, -, hname⟩ := List.mem_map.1 hmem
  exact Or.inl ⟨name, hname.symm⟩

variable {p attributes authentication}

/-- A member of a stored profile is found under its name. -/
theorem field?_members {name : String} {v : Value}
    (h : (.text name, v) ∈ p.members attributes authentication) :
    Value.field? (p.members attributes authentication) name = some v :=
  Value.field?_of_mem (fun e he => (isString_members p attributes authentication e he).isText)
    (nodup_keys_members p attributes authentication) h

theorem fieldD_members {name : String} {v : Value}
    (h : (.text name, v) ∈ p.members attributes authentication) :
    Value.fieldD (p.members attributes authentication) name = v := by
  rw [Value.fieldD, field?_members h, Option.getD_some]

theorem classOf_members : classOf (p.members attributes authentication) = .ok p.kind := by
  have htyped : Value.field? (p.members attributes authentication) "typed_id"
      = some (.text p.typedId) := field?_members (by simp [members])
  simp only [classOf, htyped, Option.getD_some, Value.display, divideText_typedId,
    ProfileClass.ofStoredName?_storedName]

theorem storedRights_members {name : String} {rights : List Value}
    (h : (.text name, .list rights) ∈ p.members attributes authentication) :
    storedRights (p.members attributes authentication) name = .list rights := by
  rw [storedRights, fieldD_members h]
  cases rights with
  | nil => rfl
  | cons r rest => rfl

theorem readStore_members {name : String} {forms : List (Value × Value)}
    (h : (.text name, .dict forms) ∈ p.members attributes authentication) :
    readStore (p.members attributes authentication) name = readFacts forms := by
  rw [readStore, fieldD_members h]

/-- **The members of a profile are read as the profile**, with the facts that are read. -/
theorem ofMembers_members_eq (hp : p.HasReadableParts) :
    ofMembers (p.members attributes authentication)
      = (readFacts attributes >>= fun attributes =>
          readFacts authentication >>= fun authentication =>
            .ok { p with attributes, authentication, notes := [] }) := by
  have hversion : Value.fieldD (p.members attributes authentication) "version"
      = .int formatVersion := fieldD_members (by simp [members])
  have hmerges : Value.field? (p.members attributes authentication) "merge_attributes"
      = some (.bool p.merges) := field?_members (by simp [members])
  have hid : Value.fieldD (p.members attributes authentication) "id" = Value.ofText? p.id :=
    fieldD_members (by simp [members])
  have hroles : storedRights (p.members attributes authentication) "roles" = .list p.roles :=
    storedRights_members (by simp [members])
  have hpermissions : storedRights (p.members attributes authentication) "permissions"
      = .list p.permissions := storedRights_members (by simp [members])
  have hattributes : readStore (p.members attributes authentication) "attributes"
      = readFacts attributes := readStore_members (by simp [members])
  have hauthentication : readStore (p.members attributes authentication)
      "authentication_attributes" = readFacts authentication :=
    readStore_members (by simp [members])
  have hremembered : Value.fieldD (p.members attributes authentication) "remembered"
      = p.remembered := fieldD_members (by simp [members])
  have hlinked : Value.fieldD (p.members attributes authentication) "linked_id"
      = p.linkedId := fieldD_members (by simp [members])
  have hclient : Value.fieldD (p.members attributes authentication) "client_name"
      = p.clientName := fieldD_members (by simp [members])
  have hequal : (Value.int formatVersion).equals (.int formatVersion) = true := by
    simp only [Value.equals, Value.same, Value.numeric?, Numeric.same, beq_self_eq_true]
  have hreadRoles : readRights .role (.list p.roles) = .ok p.roles :=
    readRights_list .role (hp.hashable .role) (hp.rights .role)
  have hreadPermissions : readRights .permission (.list p.permissions) = .ok p.permissions :=
    readRights_list .permission (hp.hashable .permission) (hp.rights .permission)
  obtain ⟨b, hb⟩ := hp.remembered
  rw [ofMembers_eq, hversion, if_pos hequal]
  simp only [readParts, classOf_members, hmerges, hid, readId_ofText? hp.id, hroles, hpermissions,
    hreadRoles, hreadPermissions, hattributes, hauthentication, hremembered, hlinked, hclient, hb,
    ok_bind]
  rfl

/-- Without its notes, a profile is read from its members if its facts are. -/
theorem ofMembers_members (hp : p.IsStorable)
    (hattributes : readFacts attributes = .ok p.attributes)
    (hauthentication : readFacts authentication = .ok p.authentication) :
    ofMembers (p.members attributes authentication) = .ok { p with notes := [] } := by
  rw [ofMembers_members_eq hp.parts.readable, hattributes, hauthentication]
  rfl

/-- What holds of each thing that a profile is made of holds of the members of its object. -/
theorem forall_mem_members {P : Value → Prop} (hversion : P (.int formatVersion)) (hnull : P .null)
    (htext : ∀ s, P (.text s)) (hbool : ∀ b, P (.bool b)) (hattributes : P (.dict attributes))
    (hauthentication : P (.dict authentication)) (hrights : ∀ k, P (.list (p.rights k)))
    (hremembered : ∃ b, p.remembered = .bool b) (hlinked : P p.linkedId)
    (hclient : P p.clientName) : ∀ m ∈ p.members attributes authentication, P m.2 := by
  have hid : P (Value.ofText? p.id) := by
    cases p.id with
    | none => exact hnull
    | some s => exact htext s
  obtain ⟨b, hb⟩ := hremembered
  simp only [members, List.forall_mem_cons, List.not_mem_nil, false_implies, implies_true, and_true]
  exact ⟨hversion, htext _, hid, hbool _, hattributes, hauthentication, hrights .role,
    hrights .permission, hb ▸ hbool b, hlinked, hclient⟩

/-- The object of a profile is a built value. -/
theorem built_members_of_parts (hp : p.HasReadableParts)
    (hattributes : (Value.dict attributes).Built fun _ => True)
    (hauthentication : (Value.dict authentication).Built fun _ => True) :
    (Value.dict (p.members attributes authentication)).Built fun _ => True :=
  .dict (fun e he => ⟨isString_members p attributes authentication e he, trivial⟩)
    (nodup_keys_members p attributes authentication)
    (forall_mem_members (.int _) .null (fun s => .string (Value.isString_text s)) .bool hattributes
      hauthentication hp.built hp.remembered hp.linkedId hp.clientName)

theorem built_members (hp : p.IsStorable)
    (hattributes : (Value.dict attributes).Built fun _ => True)
    (hauthentication : (Value.dict authentication).Built fun _ => True) :
    (Value.dict (p.members attributes authentication)).Built fun _ => True :=
  built_members_of_parts hp.parts.readable hattributes hauthentication

end Members

/-! ## Bytes -/

/-- Bytes are those of the text of a profile's object. -/
theorem exists_of_serialize {p : Profile} {e : Encoding} {bytes : Bytes}
    (h : p.serialize e = .ok bytes) :
    ∃ attributes authentication text, storedFacts p.attributes = .ok attributes
      ∧ storedFacts p.authentication = .ok authentication
      ∧ Json.write .stored (.dict (p.members attributes authentication)) = .ok text
      ∧ e.encode? text = some bytes := by
  unfold serialize at h
  split at h
  · exact absurd h (by simp)
  · next object hobject =>
    unfold toValue at hobject
    simp only [bind_eq_ok_iff, pure_eq_ok, Except.ok.injEq] at hobject
    obtain ⟨attributes, hattributes, authentication, hauthentication, rfl⟩ := hobject
    unfold bytesOf at h
    split at h
    · exact absurd h (by simp)
    · exact absurd h (by simp)
    · next text htext =>
      split at h
      · next bytes' hbytes =>
        rw [Except.ok.inj h] at hbytes
        exact ⟨attributes, authentication, text, hattributes, hauthentication, htext, hbytes⟩
      · exact absurd h (by simp)

theorem serialize_of_write {p : Profile} {e : Encoding} {object : Value} {text : String}
    {bytes : Bytes} (hobject : p.toValue = .ok object)
    (htext : Json.write .stored object = .ok text) (hbytes : e.encode? text = some bytes) :
    p.serialize e = .ok bytes := by
  rw [serialize, hobject]
  show bytesOf e object = _
  rw [bytesOf, htext]
  simp only [hbytes]

/-- A profile equals another one that has the same facts and all the rest in common. -/
theorem equals_of_facts {p : Profile} (hp : p.HasReadableParts)
    {attributes authentication : FactStore} (notes : Entries String Value) :
    equals { p with attributes, authentication, notes } p = true ↔
      (Value.dict attributes).same (.dict p.attributes) = true
        ∧ (Value.dict authentication).same (.dict p.authentication) = true := by
  have hremembered : p.remembered.equals p.remembered = true := by
    obtain ⟨b, hb⟩ := hp.remembered
    have hbool : (Value.bool b).Built fun _ => True := .bool b
    rw [hb]
    exact hbool.equals_self
  have hrights : ∀ k, Value.sameList (p.rights k) (p.rights k) = true := by
    intro k
    have hsame := (hp.built k).same_self
    rw [Value.same] at hsame
    exact hsame
  have hroles : Value.sameList p.roles p.roles = true := hrights .role
  have hpermissions : Value.sameList p.permissions p.permissions = true := hrights .permission
  unfold equals
  simp only [beq_self_eq_true, hroles, hpermissions, hremembered, hp.linkedId.equals_self,
    hp.clientName.equals_self, Bool.and_true, Bool.true_and, Bool.and_eq_true]

/-- A profile that can be stored equals itself, whatever is noted on it. -/
theorem equals_self {p : Profile} (hp : p.IsStorable) (notes : Entries String Value) :
    equals { p with notes } p = true :=
  (equals_of_facts hp.parts.readable notes).2 ⟨hp.attributes.same_self, hp.authentication.same_self⟩

/-- Facts with a member inside a list, and characters of several lengths. -/
def exampleFacts : FactStore :=
  [(.text "gender", .list [.member (.gender .female), .null, .int (-7)]),
    (.text "places", .list [.dict [(.text "höhe", .text "🏔\n"), (.text "", .bool true)]])]

def exampleProfile : Profile where
  kind := .oidc
  merges := false
  id := some "zoë"
  attributes := exampleFacts
  roles := [.text "admin", .text "user"]
  permissions := [.text "read"]
  remembered := .bool true
  clientName := .text "oidc"

theorem isStorable_exampleFacts : IsStorableStore exampleFacts where
  keys := by
    simp only [exampleFacts, List.forall_mem_cons, List.not_mem_nil, false_implies, implies_true,
      and_true]
    exact ⟨Value.isString_text _, Value.isString_text _⟩
  distinct := by simp [exampleFacts, Entries.keys]
  values := by
    simp only [exampleFacts, List.forall_mem_cons, List.not_mem_nil, false_implies, implies_true,
      and_true]
    refine ⟨.list ?_, .list ?_⟩
    · simp only [List.forall_mem_cons, List.not_mem_nil, false_implies, implies_true, and_true]
      exact ⟨.member _, .null, .int _⟩
    · simp only [List.forall_mem_cons, List.not_mem_nil, false_implies, implies_true, and_true]
      refine .dict ?_ (by simp [Entries.keys]) ?_
      · simp [Value.isString_text, enumerationTag]
      · simp only [List.forall_mem_cons, List.not_mem_nil, false_implies, implies_true, and_true]
        exact ⟨.string (Value.isString_text _), .bool _⟩

theorem isStorable_exampleProfile : exampleProfile.IsStorable where
  id s hs := by
    obtain rfl := Option.some.inj hs
    decide
  attributes := isStorable_exampleFacts
  authentication := ⟨by simp [exampleProfile], by simp [exampleProfile, Entries.keys],
    by simp [exampleProfile]⟩
  roles := by
    refine ⟨?_, ?_, ?_⟩
    · simp [exampleProfile, Value.isString_text]
    · simp only [exampleProfile, List.forall_mem_cons, List.not_mem_nil, false_implies,
        implies_true, and_true]
      exact ⟨by decide, by decide⟩
    · simp [exampleProfile]
  permissions := by
    refine ⟨?_, ?_, ?_⟩
    · simp [exampleProfile, Value.isString_text]
    · simp only [exampleProfile, List.forall_mem_cons, List.not_mem_nil, false_implies,
        implies_true, and_true]
      decide
    · simp [exampleProfile]
  remembered := ⟨true, rfl⟩
  linkedId := Or.inl rfl
  clientName := Or.inr (Value.isString_text "oidc")

/-- The example's facts as they are stored. -/
def exampleForms : List (Value × Value) :=
  [(.text "gender", .list [taggedMember (.gender .female), .null, .int (-7)]),
    (.text "places", .list [.dict [(.text "höhe", .text "🏔\n"), (.text "", .bool true)]])]

theorem storedFacts_exampleFacts : storedFacts exampleFacts = .ok exampleForms := by
  simp [exampleFacts, exampleForms, storedFacts, storedForm, storedForms, maxListDepth]

theorem serialize_exampleProfile : ∃ bytes, exampleProfile.serialize .utf16 = .ok bytes := by
  have hobject : exampleProfile.toValue = .ok (.dict (exampleProfile.members exampleForms [])) := by
    show (storedFacts exampleFacts >>= _) = _
    rw [storedFacts_exampleFacts]
    rfl
  have hversion : Json.integerText formatVersion = .ok "1" := rfl
  have hnumber : Json.integerText (-7) = .ok "-7" := rfl
  obtain ⟨text, htext⟩ : ∃ text,
      Json.write .stored (.dict (exampleProfile.members exampleForms [])) = .ok text := by
    simp [Json.write, Json.maxDepth, Json.writeNested, Json.writeAll, Json.writeEntries,
      Json.writeEntry, Json.keyText, hversion, hnumber, members, exampleForms, taggedMember,
      exampleProfile, Value.ofText?]
  have hbuilt := built_members isStorable_exampleProfile
    (isStorable_exampleFacts.built storedFacts_exampleFacts)
    (isStorable_exampleProfile.authentication.built rfl)
  obtain ⟨bytes, hbytes, -⟩ := Encoding.decode?_encode?_of_ascii (e := .utf16) (by decide)
    (Json.isAscii_of_write hbuilt htext)
  rw [String.ofList_toList] at hbytes
  exact ⟨bytes, serialize_of_write hobject htext hbytes⟩

end Profile

end RelyingParty
