import RelyingParty.Profile.Stored
import RelyingParty.Proofs.Json.Depth
import RelyingParty.Proofs.Steps

set_option autoImplicit false

/-! # Reading a profile, part by part

A profile is read from the members of an object one part after the other, and no part depends on
what the parts before it have given: `ofMembers_eq`. So what is true of a profile that is read, and
where reading stops, is settled for each part by itself. -/

namespace RelyingParty.Profile

/-! ## Parts -/

/-- The identifier that is stored; null stands for none. -/
def readId (v : Value) : Except (Failure StorageError) (Option String) :=
  if v.isNull then .ok none
  else if v.isBlank then .error (.refused (.refused .blankId))
  else .ok (some v.display)

/-- The rights that are stored. -/
def readRights (k : RightKind) (v : Value) : Except (Failure StorageError) (List Value) :=
  match rightsOf k v with
  | .error e => .error (e.map .refused)
  | .ok values =>
    match insertRights [] values with
    | (.ok (), rights) => .ok rights
    | (.error cause, _) => .error (.fault cause)

theorem setId_bind_eq {p : Profile} (hnone : p.id = none) (v : Value)
    (f : Profile → Except (Failure StorageError) Profile) :
    (if v.isNull = true then (pure p >>= f) else (whileReading (p.setId v) >>= f))
      = (readId v >>= fun id => f { p with id }) := by
  unfold readId setId
  by_cases hnull : v.isNull = true
  · rw [if_pos hnull, if_pos hnull]
    show f p = f { p with id := none }
    rw [← hnone]
  · rw [if_neg hnull, if_neg hnull]
    by_cases hblank : v.isBlank = true
    · rw [if_pos hblank, if_pos hblank]
      rfl
    · rw [if_neg hblank, if_neg hblank]
      rfl

theorem grantAll_bind_eq {p : Profile} {k : RightKind} (hnone : p.rights k = []) (v : Value)
    (f : Profile → Except (Failure StorageError) Profile) :
    (whileReading (p.grantAll k v) >>= f)
      = (readRights k v >>= fun rights => f (p.withRights k rights)) := by
  unfold readRights grantAll
  rw [hnone]
  cases rightsOf k v with
  | error e => rfl
  | ok values =>
    dsimp only
    cases insertRights [] values with
    | mk result rights =>
      cases result with
      | ok u => rfl
      | error cause => rfl

/-- The parts of a profile, one after the other. -/
def readParts (members : List (Value × Value)) : Except (Failure StorageError) Profile := do
  let kind ← classOf members
  let id ← readId (Value.fieldD members "id")
  let roles ← readRights .role (storedRights members "roles")
  let permissions ← readRights .permission (storedRights members "permissions")
  let attributes ← readStore members "attributes"
  let authentication ← readStore members "authentication_attributes"
  return {
    kind, id, attributes, authentication, roles, permissions
    merges := ((Value.field? members "merge_attributes").getD (.bool true)).truthy
    remembered := .bool (Value.fieldD members "remembered").truthy
    linkedId := Value.fieldD members "linked_id"
    clientName := Value.fieldD members "client_name" }

/-- **A profile of the right version is read part by part.** -/
theorem ofMembers_eq (members : List (Value × Value)) :
    ofMembers members =
      if (Value.fieldD members "version").equals (.int formatVersion) then readParts members
      else .error (.refused (.version (Value.fieldD members "version"))) := by
  unfold ofMembers
  dsimp only
  cases (Value.fieldD members "version").equals (.int formatVersion) with
  | false => rfl
  | true =>
    show (classOf members >>= _) = (classOf members >>= _)
    cases classOf members with
    | error e => rfl
    | ok kind =>
      show (if _ then _ else _) = (readId _ >>= _)
      rw [setId_bind_eq rfl]
      cases readId (Value.fieldD members "id") with
      | error e => rfl
      | ok id =>
        show (whileReading _ >>= _) = (readRights _ _ >>= _)
        rw [grantAll_bind_eq rfl]
        cases readRights .role (storedRights members "roles") with
        | error e => rfl
        | ok roles =>
          show (whileReading _ >>= _) = (readRights _ _ >>= _)
          rw [grantAll_bind_eq rfl]
          cases readRights .permission (storedRights members "permissions") with
          | error e => rfl
          | ok permissions => rfl

/-- The member that holds the rights of a kind. -/
def rightsMember : RightKind → String
  | .role => "roles"
  | .permission => "permissions"

/-- The member that holds a store of facts. -/
def storeMember : FactKind → String
  | .attribute => "attributes"
  | .authentication => "authentication_attributes"

/-- A profile has been read from some members. -/
structure IsReadFrom (p : Profile) (members : List (Value × Value)) : Prop where
  kind : classOf members = .ok p.kind
  id : readId (Value.fieldD members "id") = .ok p.id
  rights : ∀ k, readRights k (storedRights members (rightsMember k)) = .ok (p.rights k)
  facts : ∀ k, readStore members (storeMember k) = .ok (p.facts k)

theorem isReadFrom_of_readParts {members : List (Value × Value)} {p : Profile}
    (h : readParts members = .ok p) : p.IsReadFrom members := by
  simp only [readParts, bind_eq_ok_iff, pure_eq_ok] at h
  obtain ⟨kind, hkind, id, hid, roles, hroles, permissions, hpermissions, attributes, hattributes,
    authentication, hauthentication, hp⟩ := h
  rw [← Except.ok.inj hp]
  refine ⟨hkind, hid, fun k => ?_, fun k => ?_⟩
  · cases k with
    | role => exact hroles
    | permission => exact hpermissions
  · match k with
    | .attribute => exact hattributes
    | .authentication => exact hauthentication

/-- The rest of a profile is taken as it is stored, and nothing is noted on it. -/
structure HasRestFrom (p : Profile) (members : List (Value × Value)) : Prop where
  remembered : p.remembered = .bool (Value.fieldD members "remembered").truthy
  linkedId : p.linkedId = Value.fieldD members "linked_id"
  clientName : p.clientName = Value.fieldD members "client_name"
  notes : p.notes = []

theorem hasRestFrom_of_readParts {members : List (Value × Value)} {p : Profile}
    (h : readParts members = .ok p) : p.HasRestFrom members := by
  simp only [readParts, bind_eq_ok_iff, pure_eq_ok] at h
  obtain ⟨_, -, _, -, _, -, _, -, _, -, _, -, hp⟩ := h
  rw [← Except.ok.inj hp]
  exact ⟨rfl, rfl, rfl, rfl⟩

/-- What is read from bytes is read from the members of an object. -/
theorem exists_readParts_of_deserialize {e : Encoding} {bytes : Bytes} {p : Profile}
    (h : deserialize e bytes = .ok p) :
    ∃ members, Json.readBytes e bytes = .ok (.dict members) ∧ readParts members = .ok p := by
  unfold deserialize at h
  split at h
  · next members hread =>
    rw [ofMembers_eq] at h
    split at h
    · exact ⟨members, hread, h⟩
    · exact absurd h (by simp)
  · exact absurd h (by simp)
  · exact absurd h (by simp)
  · exact absurd h (by simp)

theorem exists_of_deserialize {e : Encoding} {bytes : Bytes} {p : Profile}
    (h : deserialize e bytes = .ok p) :
    ∃ members, Json.readBytes e bytes = .ok (.dict members) ∧ p.IsReadFrom members := by
  obtain ⟨members, hread, hparts⟩ := exists_readParts_of_deserialize h
  exact ⟨members, hread, isReadFrom_of_readParts hparts⟩

theorem isBlankText_display {v : Value} (h : v.isBlank = false) :
    Text.isBlankText v.display = false := by
  cases v with
  | null => exact absurd h (by simp [Value.isBlank])
  | _ => exact h

/-! ## Tags -/

theorem ofStoredName?_eq_some_iff {name : String} {e : Enumeration} :
    Enumeration.ofStoredName? name = some e ↔ name = e.storedName := by
  constructor
  · intro h
    have hname : (e.storedName == name) = true := by
      simpa using List.find?_some h
    exact (beq_iff_eq.1 hname).symm
  · rintro rfl
    exact Enumeration.ofStoredName?_storedName e

theorem enumeration_of_mem_members {e : Enumeration} {m : Member} (h : m ∈ e.members) :
    m.enumeration = e := by
  cases e with
  | _ =>
    obtain ⟨_, -, rfl⟩ := List.mem_map.1 h
    rfl

theorem ofText?_eq_some_iff {e : Enumeration} {text : String} {m : Member} :
    Member.ofText? e text = some m ↔ m.enumeration = e ∧ m.text = text := by
  constructor
  · intro h
    have htext : (m.text == text) = true := by
      simpa using List.find?_some h
    exact ⟨enumeration_of_mem_members (List.mem_of_find?_eq_some h), beq_iff_eq.1 htext⟩
  · rintro ⟨rfl, rfl⟩
    exact Member.ofText?_text m

theorem memberOf_eq_ok_iff {e : Enumeration} {value fact : Value} :
    memberOf e value = .ok fact ↔
      ∃ m, fact = .member m ∧ m.enumeration = e ∧ (value = .text m.text ∨ value = .member m) := by
  cases value with
  | text s =>
    rw [memberOf]
    cases hs : Member.ofText? e s with
    | none =>
      constructor
      · intro h
        exact absurd h (by simp)
      · rintro ⟨m, -, hm, htext | hmember⟩
        · have hsome : Member.ofText? e s = some m :=
            ofText?_eq_some_iff.2 ⟨hm, (Value.text.inj htext).symm⟩
          exact absurd (hs.symm.trans hsome) (by simp)
        · exact absurd hmember (by simp)
    | some m =>
      obtain ⟨hm, htext⟩ := ofText?_eq_some_iff.1 hs
      constructor
      · intro h
        exact ⟨m, (Except.ok.inj h).symm, hm, Or.inl (congrArg Value.text htext.symm)⟩
      · rintro ⟨m', rfl, hm', htext' | hmember⟩
        · have hsome : Member.ofText? e s = some m' :=
            ofText?_eq_some_iff.2 ⟨hm', (Value.text.inj htext').symm⟩
          rw [Option.some.inj (hs.symm.trans hsome)]
          rfl
        · exact absurd hmember (by simp)
  | member m =>
    rw [memberOf]
    split
    · next hm =>
      constructor
      · intro h
        exact ⟨m, (Except.ok.inj h).symm, hm, Or.inr rfl⟩
      · rintro ⟨m', rfl, -, htext | hmember⟩
        · exact absurd htext (by simp)
        · rw [Value.member.inj hmember]
    · next hm =>
      constructor
      · intro h
        exact absurd h (by simp)
      · rintro ⟨m', -, hm', htext | hmember⟩
        · exact absurd htext (by simp)
        · exact absurd (Value.member.inj hmember ▸ hm') hm
  | _ => simp [memberOf]

/-- **A tag stands for a member** if it names the enumeration and the text of the member. -/
theorem memberOfTag_eq_ok_iff {enumeration value fact : Value} :
    memberOfTag enumeration value = .ok fact ↔
      ∃ m, fact = .member m ∧ enumeration = .text m.enumeration.storedName
        ∧ (value = .text m.text ∨ value = .member m) := by
  unfold memberOfTag
  split
  · next name =>
    split
    · next e he =>
      rw [mapError_eq_ok_iff, memberOf_eq_ok_iff, ofStoredName?_eq_some_iff.1 he]
      constructor
      · rintro ⟨m, rfl, rfl, hvalue⟩
        exact ⟨m, rfl, rfl, hvalue⟩
      · rintro ⟨m, rfl, hname, hvalue⟩
        have hsome : Enumeration.ofStoredName? e.storedName = some m.enumeration :=
          ofStoredName?_eq_some_iff.2 (Value.text.inj hname)
        rw [Enumeration.ofStoredName?_storedName] at hsome
        exact ⟨m, rfl, (Option.some.inj hsome).symm, hvalue⟩
    · next hnone =>
      have hno : ∀ m : Member, Value.text name ≠ .text m.enumeration.storedName := by
        intro m hname
        rw [Value.text.inj hname, Enumeration.ofStoredName?_storedName] at hnone
        exact absurd hnone (by simp)
      split
      · simp [hno]
      · simp [hno]
  · next hno =>
    constructor
    · intro h
      exact absurd h (by simp)
    · rintro ⟨m, -, hname, -⟩
      exact (hno _ hname).elim

/-- Only the name of a family of enumerations breaks off. -/
theorem memberOfTag_fault_iff {enumeration value : Value} {cause : Fault} :
    memberOfTag enumeration value = .error (.fault cause) ↔
      cause = .wrongType ∧ ∃ name ∈ Enumeration.families, enumeration = .text name := by
  have hfamilies : ∀ name ∈ Enumeration.families, Enumeration.ofStoredName? name = none := by
    decide
  unfold memberOfTag
  split
  · next name =>
    split
    · next e he =>
      constructor
      · intro h
        exact absurd h mapError_refused_ne_fault
      · rintro ⟨-, family, hfamily, hname⟩
        rw [Value.text.inj hname, hfamilies family hfamily] at he
        exact absurd he (by simp)
    · split
      · next hfamily =>
        have hmem : name ∈ Enumeration.families := by simpa using hfamily
        simp [hmem, eq_comm]
      · next hfamily =>
        have hmem : name ∉ Enumeration.families := by simpa using hfamily
        simp [hmem]
  · next hno =>
    constructor
    · intro h
      exact absurd h (by simp)
    · rintro ⟨-, family, -, hname⟩
      exact (hno _ hname).elim

/-! ## Facts -/

theorem ofStoredForms_eq_mapM (depth : Nat) (xs : List Value) :
    ofStoredForms depth xs = xs.mapM (ofStoredForm depth) := by
  induction xs with
  | nil => rw [ofStoredForms, List.mapM_nil, pure_eq_ok]
  | cons x xs ih =>
    rw [ofStoredForms, List.mapM_cons, ih]
    cases ofStoredForm depth x with
    | error e => rfl
    | ok v =>
      cases xs.mapM (ofStoredForm depth) with
      | error e => rfl
      | ok vs => rfl

theorem form_cases (v : Value) :
    (∃ xs, v = .list xs) ∨ (∃ entries, v = .dict entries)
      ∨ (∀ xs, v ≠ .list xs) ∧ ∀ entries, v ≠ .dict entries := by
  cases v with
  | list xs => exact Or.inl ⟨xs, rfl⟩
  | dict entries => exact Or.inr (Or.inl ⟨entries, rfl⟩)
  | _ => exact Or.inr (Or.inr ⟨by simp, by simp⟩)

theorem ofStoredForm_list (depth : Nat) (xs : List Value) :
    ofStoredForm (depth + 1) (.list xs) = (xs.mapM (ofStoredForm depth)).map .list := by
  rw [ofStoredForm, if_neg (Nat.succ_ne_zero depth), Nat.add_sub_cancel, ofStoredForms_eq_mapM]
  cases xs.mapM (ofStoredForm depth) with
  | ok vs => rfl
  | error e => rfl

theorem ofStoredForm_scalar {depth : Nat} {v : Value} (hlist : ∀ xs, v ≠ .list xs)
    (hdict : ∀ entries, v ≠ .dict entries) : ofStoredForm depth v = .ok v := by
  cases v with
  | list xs => exact absurd rfl (hlist xs)
  | dict entries => exact absurd rfl (hdict entries)
  | _ => simp only [ofStoredForm]

theorem readFacts_cons_eq_ok_iff {key v : Value} {entries : List (Value × Value)}
    {facts : FactStore} :
    readFacts ((key, v) :: entries) = .ok facts ↔
      ∃ fact rest, ofStoredForm maxListDepth v = .ok fact ∧ readFacts entries = .ok rest
        ∧ (key, fact) :: rest = facts := by
  rw [readFacts, bind_eq_ok_iff]
  simp only [bind_eq_ok_iff, pure_eq_ok, Except.ok.injEq, exists_and_left]

theorem readFacts_eq_mapM (entries : List (Value × Value)) :
    readFacts entries
      = entries.mapM fun e => (ofStoredForm maxListDepth e.2).map fun fact => (e.1, fact) := by
  induction entries with
  | nil => rw [readFacts, List.mapM_nil, pure_eq_ok]
  | cons e rest ih =>
    rw [readFacts, List.mapM_cons, ih]
    cases ofStoredForm maxListDepth e.2 with
    | error e => rfl
    | ok v => rfl

/-- Facts can be read if each of them can. -/
theorem exists_readFacts_iff {entries : List (Value × Value)} :
    (∃ facts, readFacts entries = .ok facts) ↔
      ∀ e ∈ entries, ∃ fact, ofStoredForm maxListDepth e.2 = .ok fact := by
  rw [readFacts_eq_mapM, exists_mapM_eq_ok_iff]
  refine forall₂_congr fun e _ => ?_
  constructor
  · rintro ⟨_, h⟩
    obtain ⟨fact, hfact, -⟩ := map_eq_ok_iff.1 h
    exact ⟨fact, hfact⟩
  · rintro ⟨fact, hfact⟩
    exact ⟨_, map_eq_ok_iff.2 ⟨fact, hfact, rfl⟩⟩

/-- The facts that are read are what the stored forms stand for, under the same keys. -/
theorem mem_readFacts_iff {entries : List (Value × Value)} {facts : FactStore}
    (h : readFacts entries = .ok facts) {key fact : Value} :
    (key, fact) ∈ facts ↔ ∃ v, (key, v) ∈ entries ∧ ofStoredForm maxListDepth v = .ok fact := by
  induction entries generalizing facts with
  | nil =>
    rw [← Except.ok.inj h]
    simp
  | cons e rest ih =>
    obtain ⟨first, others, hfirst, hothers, rfl⟩ := readFacts_cons_eq_ok_iff.1 h
    rw [List.mem_cons, ih hothers]
    constructor
    · rintro (heq | ⟨v, hv, hfact⟩)
      · obtain ⟨rfl, rfl⟩ := Prod.mk.inj heq
        exact ⟨e.2, List.mem_cons_self .., hfirst⟩
      · exact ⟨v, List.mem_cons_of_mem _ hv, hfact⟩
    · rintro ⟨v, hv, hfact⟩
      rcases List.mem_cons.1 hv with rfl | hv
      · rw [Except.ok.inj (hfact.symm.trans hfirst)]
        exact Or.inl rfl
      · exact Or.inr ⟨v, hv, hfact⟩

/-! ## Rights -/

/-- Visible rights, none of which is there twice. -/
structure RightsInOrder (rights : List Value) : Prop where
  visible : ∀ r ∈ rights, r.isBlank = false
  distinct : rights.Pairwise fun a b => a.same b = false

theorem insertRight_eq_ok_iff {rights after : List Value} {right : Value} :
    insertRight rights right = .ok after ↔
      right.hashable = true
        ∧ (if rights.any (·.same right) then rights else rights ++ [right]) = after := by
  unfold insertRight
  cases right.hashable with
  | false => simp
  | true =>
    by_cases hany : rights.any (·.same right) = true
    · simp [hany]
    · simp [hany]

/-- Rights are added one by one if none of them can change. -/
theorem insertRights_cons_eq_ok_iff {rights after rest : List Value} {right : Value} :
    insertRights rights (right :: rest) = (.ok (), after) ↔
      ∃ between, insertRight rights right = .ok between
        ∧ insertRights between rest = (.ok (), after) := by
  rw [insertRights]
  cases insertRight rights right with
  | ok between => simp
  | error cause => simp

/-- Rights are added exactly if none of them can change. -/
theorem exists_insertRights_iff {rights new : List Value} :
    (∃ after, insertRights rights new = (.ok (), after)) ↔ ∀ r ∈ new, r.hashable = true := by
  induction new generalizing rights with
  | nil => simp [insertRights]
  | cons r rest ih =>
    rw [List.forall_mem_cons]
    constructor
    · rintro ⟨after, h⟩
      obtain ⟨between, hfirst, hrest⟩ := insertRights_cons_eq_ok_iff.1 h
      exact ⟨(insertRight_eq_ok_iff.1 hfirst).1, ih.1 ⟨after, hrest⟩⟩
    · rintro ⟨hfirst, hrest⟩
      obtain ⟨after, hafter⟩ := ih.2 hrest
      exact ⟨after, insertRights_cons_eq_ok_iff.2
        ⟨_, insertRight_eq_ok_iff.2 ⟨hfirst, rfl⟩, hafter⟩⟩

/-- Nothing comes in but what is added. -/
theorem mem_of_mem_insertRights {rights new after : List Value}
    (h : insertRights rights new = (.ok (), after)) :
    ∀ r ∈ after, r ∈ rights ∨ r ∈ new := by
  induction new generalizing rights with
  | nil =>
    rw [insertRights] at h
    rw [← (Prod.mk.inj h).2]
    exact fun r hr => Or.inl hr
  | cons right rest ih =>
    obtain ⟨between, hfirst, hrest⟩ := insertRights_cons_eq_ok_iff.1 h
    obtain ⟨-, rfl⟩ := insertRight_eq_ok_iff.1 hfirst
    intro r hr
    rcases ih hrest r hr with hbetween | hlater
    · split at hbetween
      · exact Or.inl hbetween
      · rcases List.mem_append.1 hbetween with hold | hnew
        · exact Or.inl hold
        · rw [List.mem_singleton.1 hnew]
          exact Or.inr (List.mem_cons_self ..)
    · exact Or.inr (List.mem_cons_of_mem _ hlater)

theorem pairwise_insertRight {rights after : List Value} {right : Value}
    (hrights : rights.Pairwise fun a b => a.same b = false)
    (h : insertRight rights right = .ok after) :
    after.Pairwise fun a b => a.same b = false := by
  obtain ⟨-, rfl⟩ := insertRight_eq_ok_iff.1 h
  split
  · exact hrights
  · next hnew =>
    refine List.pairwise_append.2 ⟨hrights, List.pairwise_singleton _ _, fun r hr r' hr' => ?_⟩
    rw [List.mem_singleton.1 hr']
    rw [List.any_eq_true] at hnew
    exact Bool.eq_false_iff.2 fun hsame => hnew ⟨r, hr, hsame⟩

/-- **No right comes in twice.** -/
theorem pairwise_insertRights {rights new after : List Value}
    (hrights : rights.Pairwise fun a b => a.same b = false)
    (h : insertRights rights new = (.ok (), after)) :
    after.Pairwise fun a b => a.same b = false := by
  induction new generalizing rights with
  | nil =>
    rw [insertRights] at h
    rw [← (Prod.mk.inj h).2]
    exact hrights
  | cons right rest ih =>
    obtain ⟨between, hfirst, hrest⟩ := insertRights_cons_eq_ok_iff.1 h
    exact ih (pairwise_insertRight hrights hfirst) hrest

/-! ## The profile of a user -/

/-- The members that make an object the profile of a user, and others. -/
def userMembers (others : List (Value × Value)) : List (Value × Value) :=
  (.text "version", .int 1)
    :: (.text "typed_id", .text "oidc_rp.profile.models.UserProfile#") :: others

def userText (others : String) : List Char :=
  ("\x7b\"version\": 1, \"typed_id\": \"oidc_rp.profile.models.UserProfile#\", "
    ++ others ++ "\x7d").toList

theorem classOf_userMembers (others : List (Value × Value)) :
    classOf (userMembers others) = .ok .user := by
  have htyped : Value.field? (userMembers others) "typed_id"
      = some (.text "oidc_rp.profile.models.UserProfile#") := by cbv
  have hname : divideText typedIdSeparator "oidc_rp.profile.models.UserProfile#"
      = ("oidc_rp.profile.models.UserProfile", "") := by decide
  have hkind : ProfileClass.ofStoredName? "oidc_rp.profile.models.UserProfile" = some .user := by
    decide
  simp only [classOf, htyped, Option.getD_some, Value.display, hname, hkind]

theorem ofMembers_userMembers (others : List (Value × Value)) :
    ofMembers (userMembers others) = readParts (userMembers others) := by
  have hversion : Value.fieldD (userMembers others) "version" = .int 1 := by cbv
  have hequal : (Value.int 1).equals (.int formatVersion) = true := by cbv
  rw [ofMembers_eq, hversion, if_pos hequal]

theorem deserialize_userText {written : String} {others : List (Value × Value)}
    (hascii : Text.IsAscii (userText written))
    (hread : Json.read (String.ofList (userText written)) = .ok (.dict (userMembers others))) :
    deserialize .utf8 (Text.asciiBytes (userText written)) = readParts (userMembers others) := by
  rw [deserialize, Json.readBytes_asciiBytes hascii, hread]
  exact ofMembers_userMembers others

end RelyingParty.Profile
