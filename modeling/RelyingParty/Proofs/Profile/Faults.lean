import Mathlib
import RelyingParty.Proofs.Json.Values
import RelyingParty.Proofs.Profile.Reading

set_option autoImplicit false

/-! # Where reading a profile breaks off

Reading a profile gives the profile, or it is refused with a reason, or it breaks off with a fault.
It breaks off at JSON that is nested too deep, and at the first of the rights and facts of an object
that is neither taken nor refused: `BreaksOff` says at which. Everything before it is in order,
since what is refused is refused at once.

The first two parts are about one fact and about one collection of rights; each of them has one
predicate for what is taken and one for what breaks off. -/

namespace RelyingParty.Profile

/-! ## Facts -/

/-- Stored forms that stand for a value; lists may be nested some levels deep in them. -/
inductive Readable : Nat → Value → Prop
  | scalar {depth : Nat} {v : Value} (hlist : ∀ xs, v ≠ .list xs)
    (hdict : ∀ entries, v ≠ .dict entries) : Readable depth v
  | dict {depth : Nat} {entries : List (Value × Value)}
    (h : Value.field? entries enumerationTag = none) : Readable depth (.dict entries)
  /-- A tag names an enumeration, and one of its members. -/
  | tag {depth : Nat} {entries : List (Value × Value)} (m : Member)
    (hname : Value.field? entries enumerationTag = some (.text m.enumeration.storedName))
    (hvalue : Value.fieldD entries "value" = .text m.text
      ∨ Value.fieldD entries "value" = .member m) : Readable depth (.dict entries)
  | list {depth : Nat} {xs : List Value} (h : ∀ x ∈ xs, Readable depth x) :
    Readable (depth + 1) (.list xs)

/-- Stored forms at which reading breaks off. -/
inductive Breaks : Nat → Value → Prop
  | deep {xs : List Value} : Breaks 0 (.list xs)
  /-- A tag names a family of enumerations, which has no members. -/
  | family {depth : Nat} {entries : List (Value × Value)} {name : String}
    (hname : Value.field? entries enumerationTag = some (.text name))
    (hfamily : name ∈ Enumeration.families) : Breaks depth (.dict entries)
  /-- The first element that is not read is one at which reading breaks off. -/
  | element {depth : Nat} {before after : List Value} {x : Value}
    (hbefore : ∀ y ∈ before, Readable depth y) (hx : Breaks depth x) :
    Breaks (depth + 1) (.list (before ++ x :: after))

/-- A mapping without a tag is readable, and so is one whose tag stands for a member. -/
theorem exists_ofStoredForm_dict_iff {depth : Nat} {entries : List (Value × Value)} :
    (∃ fact, ofStoredForm depth (.dict entries) = .ok fact) ↔ Readable depth (.dict entries) := by
  rw [ofStoredForm]
  constructor
  · rintro ⟨fact, h⟩
    split at h
    · next enumeration htag =>
      obtain ⟨m, -, rfl, hvalue⟩ := memberOfTag_eq_ok_iff.1 h
      exact .tag m htag hvalue
    · next htag => exact .dict htag
  · intro h
    cases h with
    | scalar hlist hdict => exact absurd rfl (hdict entries)
    | dict htag =>
      rw [htag]
      exact ⟨_, rfl⟩
    | tag m htag hvalue =>
      rw [htag]
      exact ⟨_, memberOfTag_eq_ok_iff.2 ⟨m, rfl, rfl, hvalue⟩⟩

/-- **What is readable is read.** -/
theorem exists_ofStoredForm_iff {depth : Nat} {v : Value} :
    (∃ fact, ofStoredForm depth v = .ok fact) ↔ Readable depth v := by
  -- by induction on the depth, since the elements of a list are one level deeper
  induction depth using Nat.strongRecOn generalizing v with
  | ind depth ih =>
    rcases form_cases v with ⟨xs, rfl⟩ | ⟨entries, rfl⟩ | ⟨hlist, hdict⟩
    · cases depth with
      | zero =>
        constructor
        · rintro ⟨fact, h⟩
          exact absurd h (by simp [ofStoredForm])
        · intro h
          cases h with
          | scalar hlist hdict => exact absurd rfl (hlist xs)
      | succ depth =>
        rw [ofStoredForm_list]
        constructor
        · rintro ⟨fact, h⟩
          obtain ⟨vs, hvs, -⟩ := map_eq_ok_iff.1 h
          have hall := exists_mapM_eq_ok_iff.1 ⟨vs, hvs⟩
          exact .list fun x hx => (ih depth (Nat.lt_succ_self depth)).1 (hall x hx)
        · intro h
          cases h with
          | scalar hlist hdict => exact absurd rfl (hlist xs)
          | list hall =>
            obtain ⟨vs, hvs⟩ := exists_mapM_eq_ok_iff.2 fun x hx =>
              (ih depth (Nat.lt_succ_self depth)).2 (hall x hx)
            exact ⟨_, map_eq_ok_iff.2 ⟨vs, hvs, rfl⟩⟩
    · exact exists_ofStoredForm_dict_iff
    · exact ⟨fun _ => .scalar hlist hdict, fun _ => ⟨v, ofStoredForm_scalar hlist hdict⟩⟩

theorem ofStoredForm_dict_fault_iff {depth : Nat} {entries : List (Value × Value)} :
    (∃ cause, ofStoredForm depth (.dict entries) = .error (.fault cause)) ↔
      Breaks depth (.dict entries) := by
  rw [ofStoredForm]
  constructor
  · rintro ⟨cause, h⟩
    split at h
    · next enumeration htag =>
      obtain ⟨-, name, hfamily, rfl⟩ := memberOfTag_fault_iff.1 h
      exact .family htag hfamily
    · exact absurd h (by simp)
  · intro h
    cases h with
    | family htag hfamily =>
      rw [htag]
      exact ⟨_, memberOfTag_fault_iff.2 ⟨rfl, _, hfamily, rfl⟩⟩

/-- **Reading a fact breaks off where it is said to.** -/
theorem ofStoredForm_fault_iff {depth : Nat} {v : Value} :
    (∃ cause, ofStoredForm depth v = .error (.fault cause)) ↔ Breaks depth v := by
  induction depth using Nat.strongRecOn generalizing v with
  | ind depth ih =>
    rcases form_cases v with ⟨xs, rfl⟩ | ⟨entries, rfl⟩ | ⟨hlist, hdict⟩
    · cases depth with
      | zero => exact ⟨fun _ => .deep, fun _ => ⟨.tooDeep, by simp [ofStoredForm]⟩⟩
      | succ depth =>
        rw [ofStoredForm_list]
        constructor
        · rintro ⟨cause, h⟩
          obtain ⟨before, x, after, rfl, hbefore, hx⟩ :=
            mapM_eq_error_iff.1 (map_eq_error_iff.1 h)
          refine .element (fun y hy => exists_ofStoredForm_iff.1 (hbefore y hy)) ?_
          exact (ih depth (Nat.lt_succ_self depth)).1 ⟨cause, hx⟩
        · intro h
          generalize hxs : Value.list xs = v at h
          cases h with
          | family => exact absurd hxs (by simp)
          | element hbefore hx =>
            obtain ⟨cause, hcause⟩ := (ih depth (Nat.lt_succ_self depth)).2 hx
            rw [Value.list.inj hxs]
            refine ⟨cause, map_eq_error_iff.2 (mapM_eq_error_iff.2 ⟨_, _, _, rfl, ?_, hcause⟩)⟩
            exact fun y hy => exists_ofStoredForm_iff.2 (hbefore y hy)
    · exact ofStoredForm_dict_fault_iff
    · rw [ofStoredForm_scalar hlist hdict]
      constructor
      · rintro ⟨cause, h⟩
        exact absurd h (by simp)
      · intro h
        cases h with
        | deep => exact absurd rfl (hlist _)
        | family => exact absurd rfl (hdict _)
        | element => exact absurd rfl (hlist _)

/-! ## Stores -/

/-- The facts of a store that are all read; anything but a mapping holds none. -/
def GivesFacts (v : Value) : Prop :=
  ∀ entries, v = .dict entries → ∀ e ∈ entries, Readable maxListDepth e.2

/-- The first fact that is not read is one at which reading breaks off. -/
def BreaksFacts (v : Value) : Prop :=
  ∃ before e after, v = .dict (before ++ e :: after)
    ∧ (∀ e' ∈ before, Readable maxListDepth e'.2) ∧ Breaks maxListDepth e.2

section Stores

variable {members : List (Value × Value)} {name : String}

theorem exists_readStore_iff :
    (∃ facts, readStore members name = .ok facts) ↔ GivesFacts (Value.fieldD members name) := by
  unfold readStore GivesFacts
  split
  · next entries hentries =>
    rw [hentries, exists_readFacts_iff]
    simp only [exists_ofStoredForm_iff]
    constructor
    · intro hall entries' heq
      rw [← Value.dict.inj heq]
      exact hall
    · intro hall
      exact hall entries rfl
  · next hno => exact ⟨fun _ entries heq => (hno entries heq).elim, fun _ => ⟨_, rfl⟩⟩

theorem readStore_fault_iff :
    (∃ cause, readStore members name = .error (.fault cause)) ↔
      BreaksFacts (Value.fieldD members name) := by
  unfold readStore BreaksFacts
  split
  · next entries hentries =>
    rw [hentries, readFacts_eq_mapM]
    simp only [mapM_eq_error_iff, map_eq_error_iff, map_eq_ok_iff]
    constructor
    · rintro ⟨cause, before, e, after, rfl, hbefore, he⟩
      refine ⟨before, e, after, rfl, fun e' he' => ?_, ofStoredForm_fault_iff.1 ⟨cause, he⟩⟩
      obtain ⟨_, fact, hfact, -⟩ := hbefore e' he'
      exact exists_ofStoredForm_iff.1 ⟨fact, hfact⟩
    · rintro ⟨before, e, after, hsplit, hbefore, he⟩
      obtain ⟨cause, hcause⟩ := ofStoredForm_fault_iff.2 he
      refine ⟨cause, before, e, after, Value.dict.inj hsplit, fun e' he' => ?_, hcause⟩
      obtain ⟨fact, hfact⟩ := exists_ofStoredForm_iff.2 (hbefore e' he')
      exact ⟨_, fact, hfact, rfl⟩
  · next hno =>
    constructor
    · rintro ⟨cause, h⟩
      exact absurd h (by simp)
    · rintro ⟨before, e, after, heq, -⟩
      exact (hno _ heq).elim

end Stores

/-! ## Rights -/

/-- Rights that are all taken: none at all, or a collection of visible ones that cannot change. -/
inductive GivesRights : Value → Prop
  | none {v : Value} (h : v.truthy = false) : GivesRights v
  | list {xs : List Value} (h : ∀ x ∈ xs, x.isBlank = false ∧ x.hashable = true) :
    GivesRights (.list xs)
  | dict {entries : List (Value × Value)} (h : ∀ e ∈ entries, e.1.isBlank = false) :
    GivesRights (.dict entries)

/-- What is no collection, or a collection of visible rights one of which can change. -/
inductive BreaksRights : Value → Prop
  | bool : BreaksRights (.bool true)
  | int {n : Int} (h : n ≠ 0) : BreaksRights (.int n)
  | float {x : Binary64} (h : x.isZero = false) : BreaksRights (.float x)
  | list {xs : List Value} (hvisible : ∀ x ∈ xs, x.isBlank = false)
    (h : ∃ x ∈ xs, x.hashable = false) : BreaksRights (.list xs)

section Rights

variable {k : RightKind} {v : Value} {values : List Value}

/-- Rights of a collection are read if they are visible and cannot change; one that is blank is
    refused before any of them is added. -/
theorem exists_readRights_of_values
    (h : rightsOf k v
      = if values.any Value.isBlank then .error (.refused (.blankRight k)) else .ok values) :
    (∃ rights, readRights k v = .ok rights) ↔
      ∀ x ∈ values, x.isBlank = false ∧ x.hashable = true := by
  have hsplit : (∀ x ∈ values, x.isBlank = false ∧ x.hashable = true) ↔
      values.any Value.isBlank = false ∧ ∀ x ∈ values, x.hashable = true := by
    simp only [List.any_eq_false, Bool.not_eq_true, forall₂_and]
  rw [hsplit, readRights, h]
  cases values.any Value.isBlank with
  | true => simp
  | false =>
    rw [if_neg Bool.false_ne_true, ← exists_insertRights_iff]
    rcases hinsert : insertRights [] values with ⟨_ | _, after⟩
    · simp [hinsert]
    · simp [hinsert]

theorem readRights_fault_of_values
    (h : rightsOf k v
      = if values.any Value.isBlank then .error (.refused (.blankRight k)) else .ok values) :
    (∃ cause, readRights k v = .error (.fault cause)) ↔
      (∀ x ∈ values, x.isBlank = false) ∧ ∃ x ∈ values, x.hashable = false := by
  have hvisible : (∀ x ∈ values, x.isBlank = false) ↔ values.any Value.isBlank = false := by
    simp only [List.any_eq_false, Bool.not_eq_true]
  have hchanging : (∃ x ∈ values, x.hashable = false) ↔
      ¬ ∃ after, insertRights [] values = (.ok (), after) := by
    rw [exists_insertRights_iff]
    simp
  rw [hvisible, hchanging, readRights, h]
  cases values.any Value.isBlank with
  | true => simp [Failure.map]
  | false =>
    rw [if_neg Bool.false_ne_true]
    rcases hinsert : insertRights [] values with ⟨_ | _, after⟩
    · simp [hinsert]
    · simp [hinsert]

/-- What is no collection breaks off, and text is refused. -/
theorem readRights_of_wrongType (h : rightsOf k v = .error (.fault .wrongType)) :
    readRights k v = .error (.fault .wrongType) := by
  rw [readRights, h]
  rfl

theorem readRights_of_isString (h : v.IsString) :
    readRights k v = .error (.refused (.refused (.textForRights k))) := by
  rcases h with ⟨s, rfl⟩ | ⟨points, rfl, -⟩
  · rfl
  · rfl

theorem BreaksRights.truthy (h : BreaksRights v) : v.truthy = true := by
  cases h with
  | bool => rfl
  | int hn => simpa [Value.truthy] using hn
  | float hx => simpa [Value.truthy] using hx
  | list hvisible hex =>
    obtain ⟨x, hx, -⟩ := hex
    simpa [Value.truthy] using List.ne_nil_of_mem hx

/-- **Rights are read if they are taken as they should be.** -/
theorem exists_readRights_iff (hv : v.IsJson True) :
    (∃ rights, readRights k (if v.truthy then v else .list []) = .ok rights) ↔ GivesRights v := by
  by_cases htruthy : v.truthy = true
  · rw [if_pos htruthy]
    -- only a list and a mapping are collections of rights
    cases hv with
    | list _ =>
      rw [exists_readRights_of_values rfl]
      constructor
      · exact .list
      · intro h
        cases h with
        | none hfalsy => exact absurd htruthy (by simp [hfalsy])
        | list hall => exact hall
    | dict hkeys _ _ =>
      rw [exists_readRights_of_values rfl]
      constructor
      · intro hall
        exact .dict fun e he => (hall e.1 (List.mem_map_of_mem he)).1
      · intro h x hx
        obtain ⟨e, he, rfl⟩ := List.mem_map.1 hx
        refine ⟨?_, Value.hashable_of_isText (hkeys e he).isText⟩
        cases h with
        | none hfalsy => exact absurd htruthy (by simp [hfalsy])
        | dict hall => exact hall e he
    | string hs =>
      refine iff_of_false (by simp [readRights_of_isString hs]) fun h => ?_
      cases h with
      | none hfalsy => exact absurd htruthy (by simp [hfalsy])
      | list _ => exact absurd hs.isText (by simp [Value.isText])
      | dict _ => exact absurd hs.isText (by simp [Value.isText])
    | _ =>
      refine iff_of_false ?_ fun h => ?_
      · rintro ⟨rights, h⟩
        exact absurd h (by simp [readRights, rightsOf, Value.elements])
      · cases h with
        | none hfalsy => exact absurd htruthy (by simp [hfalsy])
  · rw [if_neg htruthy]
    exact iff_of_true ⟨[], rfl⟩ (.none (Bool.eq_false_iff.2 htruthy))

/-- **Reading rights breaks off where it is said to.** -/
theorem readRights_fault_iff (hv : v.IsJson True) :
    (∃ cause, readRights k (if v.truthy then v else .list []) = .error (.fault cause)) ↔
      BreaksRights v := by
  by_cases htruthy : v.truthy = true
  · rw [if_pos htruthy]
    cases hv with
    | null => exact absurd htruthy (by simp [Value.truthy])
    | bool b =>
      have hb : b = true := htruthy
      rw [hb]
      exact iff_of_true ⟨_, readRights_of_wrongType rfl⟩ .bool
    | @int n _ =>
      have hn : n ≠ 0 := by simpa [Value.truthy] using htruthy
      exact iff_of_true ⟨_, readRights_of_wrongType rfl⟩ (.int hn)
    | float _ x =>
      have hx : x.isZero = false := by simpa [Value.truthy] using htruthy
      exact iff_of_true ⟨_, readRights_of_wrongType rfl⟩ (.float hx)
    | string hs =>
      refine iff_of_false (by simp [readRights_of_isString hs]) fun h => ?_
      cases h with
      | _ => exact absurd hs.isText (by simp [Value.isText])
    | list _ =>
      rw [readRights_fault_of_values rfl]
      constructor
      · rintro ⟨hvisible, hex⟩
        exact .list hvisible hex
      · intro h
        cases h with
        | list hvisible hex => exact ⟨hvisible, hex⟩
    | dict hkeys _ _ =>
      rw [readRights_fault_of_values rfl]
      refine iff_of_false ?_ fun h => by cases h
      rintro ⟨-, x, hx, hchanging⟩
      obtain ⟨e, he, rfl⟩ := List.mem_map.1 hx
      exact absurd (Value.hashable_of_isText (hkeys e he).isText) (by simp [hchanging])
  · rw [if_neg htruthy]
    refine iff_of_false ?_ fun h => htruthy h.truthy
    rintro ⟨cause, h⟩
    exact absurd h (by simp [readRights, rightsOf, Value.elements, insertRights])

end Rights

/-! ## Objects -/

/-- An object of the right version that names a class, and whose identifier is not blank. -/
structure IsIntroduced (members : List (Value × Value)) : Prop where
  version : (Value.fieldD members "version").equals (.int formatVersion) = true
  kind : ∃ kind, classOf members = .ok kind
  id : Value.fieldD members "id" = .null ∨ (Value.fieldD members "id").isBlank = false

/-- The members of an object at one of which reading breaks off. -/
inductive BreaksOff (members : List (Value × Value)) : Prop
  | roles (h : IsIntroduced members) (hroles : BreaksRights (Value.fieldD members "roles"))
  | permissions (h : IsIntroduced members) (hroles : GivesRights (Value.fieldD members "roles"))
    (hpermissions : BreaksRights (Value.fieldD members "permissions"))
  | attributes (h : IsIntroduced members) (hroles : GivesRights (Value.fieldD members "roles"))
    (hpermissions : GivesRights (Value.fieldD members "permissions"))
    (hattributes : BreaksFacts (Value.fieldD members "attributes"))
  | authentication (h : IsIntroduced members)
    (hroles : GivesRights (Value.fieldD members "roles"))
    (hpermissions : GivesRights (Value.fieldD members "permissions"))
    (hattributes : GivesFacts (Value.fieldD members "attributes"))
    (hauthentication : BreaksFacts (Value.fieldD members "authentication_attributes"))

theorem exists_readId_iff {v : Value} :
    (∃ id, readId v = .ok id) ↔ v = .null ∨ v.isBlank = false := by
  by_cases hnull : v = .null
  · rw [hnull]
    exact iff_of_true ⟨none, rfl⟩ (Or.inl rfl)
  · rw [readId, Value.isNull_eq_false hnull, if_neg Bool.false_ne_true]
    cases v.isBlank with
    | true => simp [hnull]
    | false => simp

theorem readId_ne_fault (v : Value) : ¬ ∃ cause, readId v = .error (.fault cause) := by
  rintro ⟨cause, h⟩
  unfold readId at h
  split at h
  · exact absurd h (by simp)
  · split at h
    · exact absurd h (by simp)
    · exact absurd h (by simp)

theorem classOf_ne_fault (members : List (Value × Value)) :
    ¬ ∃ cause, classOf members = .error (.fault cause) := by
  rintro ⟨cause, h⟩
  unfold classOf at h
  dsimp only at h
  split at h
  · exact absurd h (by simp)
  · exact absurd h (by simp)

section Objects

variable {members : List (Value × Value)}

theorem exists_storedRights_iff (hmembers : (Value.dict members).IsJson True) {k : RightKind}
    {name : String} :
    (∃ rights, readRights k (storedRights members name) = .ok rights) ↔
      GivesRights (Value.fieldD members name) :=
  exists_readRights_iff (hmembers.fieldD name)

theorem storedRights_fault_iff (hmembers : (Value.dict members).IsJson True) {k : RightKind}
    {name : String} :
    (∃ cause, readRights k (storedRights members name) = .error (.fault cause)) ↔
      BreaksRights (Value.fieldD members name) :=
  readRights_fault_iff (hmembers.fieldD name)

/-- **Reading an object breaks off where it is said to.** -/
theorem ofMembers_fault_iff (hmembers : (Value.dict members).IsJson True) :
    (∃ cause, ofMembers members = .error (.fault cause)) ↔ BreaksOff members := by
  rw [ofMembers_eq]
  by_cases hversion : (Value.fieldD members "version").equals (.int formatVersion) = true
  · rw [if_pos hversion]
    simp only [readParts, bind_fault_iff, pure_eq_ok, reduceCtorEq, exists_false, and_false,
      or_false, exists_and_right, classOf_ne_fault, readId_ne_fault, false_or,
      exists_storedRights_iff hmembers, storedRights_fault_iff hmembers, exists_readId_iff,
      exists_readStore_iff, readStore_fault_iff]
    constructor
    · rintro ⟨hkind, hid, hrest⟩
      have hintroduced : IsIntroduced members := ⟨hversion, hkind, hid⟩
      rcases hrest with hroles | ⟨hroles, hrest⟩
      · exact .roles hintroduced hroles
      rcases hrest with hpermissions | ⟨hpermissions, hrest⟩
      · exact .permissions hintroduced hroles hpermissions
      rcases hrest with hattributes | ⟨hattributes, hauthentication⟩
      · exact .attributes hintroduced hroles hpermissions hattributes
      · exact .authentication hintroduced hroles hpermissions hattributes hauthentication
    · intro h
      cases h with
      | roles h hroles => exact ⟨h.kind, h.id, Or.inl hroles⟩
      | permissions h hroles hpermissions =>
        exact ⟨h.kind, h.id, Or.inr ⟨hroles, Or.inl hpermissions⟩⟩
      | attributes h hroles hpermissions hattributes =>
        exact ⟨h.kind, h.id, Or.inr ⟨hroles, Or.inr ⟨hpermissions, Or.inl hattributes⟩⟩⟩
      | authentication h hroles hpermissions hattributes hauthentication =>
        exact ⟨h.kind, h.id, Or.inr ⟨hroles, Or.inr ⟨hpermissions, Or.inr ⟨hattributes,
          hauthentication⟩⟩⟩⟩
  · rw [if_neg hversion]
    refine iff_of_false (by simp) fun h => ?_
    cases h with
    | roles h _ => exact hversion h.version
    | permissions h _ _ => exact hversion h.version
    | attributes h _ _ _ => exact hversion h.version
    | authentication h _ _ _ _ => exact hversion h.version

end Objects

/-! ## Bytes -/

/-- **Bytes give a profile or are refused, unless they are JSON that is nested too deep or an object
    at one of whose members reading breaks off.** -/
theorem deserialize_ok_or_refused_iff (e : Encoding) (bytes : Bytes) :
    ((∃ p, deserialize e bytes = .ok p) ∨ ∃ reason, deserialize e bytes = .error (.refused reason))
      ↔ ¬ (Json.readBytes e bytes = .error .tooDeep
        ∨ ∃ members, Json.readBytes e bytes = .ok (.dict members) ∧ BreaksOff members) := by
  rw [ok_or_refused_iff]
  refine not_congr ?_
  unfold deserialize
  split
  · next members hread =>
    rw [ofMembers_fault_iff (Json.isJson_of_readBytes hread)]
    simp [hread]
  · next v hno hread =>
    -- what is no object is refused
    refine iff_of_false (by simp) ?_
    rintro (hdeep | ⟨members, hmembers, -⟩)
    · exact absurd (hread.symm.trans hdeep) (by simp)
    · exact hno members (Except.ok.inj (hread.symm.trans hmembers))
  · next hread => exact iff_of_true ⟨_, rfl⟩ (Or.inl hread)
  · next cause hno hread =>
    refine iff_of_false (by simp) ?_
    rintro (hdeep | ⟨members, hmembers, -⟩)
    · exact hno (Except.error.inj (hread.symm.trans hdeep))
    · exact absurd (hread.symm.trans hmembers) (by simp)

/-- A number where rights should be is no collection. -/
theorem deserialize_roles_one :
    deserialize .utf8 (Text.asciiBytes (userText "\"roles\": 1")) = .error (.fault .wrongType) := by
  have hread : Json.read (String.ofList (userText "\"roles\": 1"))
      = .ok (.dict (userMembers [(.text "roles", .int 1)])) := by cbv
  have hid : Value.fieldD (userMembers [(.text "roles", .int 1)]) "id" = .null := by cbv
  have hroles : Value.fieldD (userMembers [(.text "roles", .int 1)]) "roles" = .int 1 := by cbv
  rw [deserialize_userText (by decide) hread]
  simp only [readParts, classOf_userMembers, hid, storedRights, hroles, ok_bind]
  rfl

end RelyingParty.Profile
