import Mathlib.Data.List.Permutation
import RelyingParty.Profile.Login
import RelyingParty.Proofs.Profile.Survival
import RelyingParty.Proofs.Token.Acceptance
import RelyingParty.Proofs.Token.Segments

set_option autoImplicit false

/-! # Logins that survive being stored

The profile of a login holds the claims of a token as the provider has made them, next to the tokens
themselves. `ofClaims_eq` says what is in it, and `login_survives_iff` when it can be stored and
comes back: no claim may look like the tag of an enumeration or be nested too deep, unless a token
takes its place. -/

namespace RelyingParty

/-! ## Claims -/

theorem isJson_of_claimsOfPayload {payload : Bytes} {claims : List (Value × Value)}
    (h : claimsOfPayload payload = .ok claims) : (Value.dict claims).IsJson True :=
  Json.isJson_of_readBytes (membersOf_eq_ok_iff.1 h)

/-- The claims of a token that is read are an object of JSON. -/
theorem ParsedToken.isJson_claims {token : String} {parsed : ParsedToken}
    (h : ofText token = .ok parsed) : (Value.dict parsed.claims).IsJson True := by
  unfold ofText ofEncrypted ofSigned at h
  split at h
  · exact absurd h (by simp)
  · split at h
    · split at h
      · exact absurd h (by simp)
      · -- an encrypted token has no claims to be read
        rw [← Except.ok.inj h]
        exact .dict (by simp) .nil (by simp)
    · split at h
      · split at h
        · exact absurd h (by simp)
        · split at h
          · exact absurd h (by simp)
          · next claims hclaims =>
            rw [← Except.ok.inj h]
            exact isJson_of_claimsOfPayload hclaims
      · exact absurd h (by simp)

/-- The claims of a token that is accepted are an object of JSON. -/
theorem Token.KeyValidator.isJson_of_validate {v : KeyValidator} {check : Key.Check} {now : Int}
    {remote : Remote} {token nonce : Value} {claims : Claims}
    (h : (v.validate check now remote token nonce).1 = .ok claims) :
    (Value.dict claims).IsJson True := by
  obtain ⟨keys, -, hjudge⟩ := validate_eq_ok_iff.1 h
  obtain ⟨_, _, _, -, -, -, -, hclaims, -⟩ := judge_eq_ok_iff.1 hjudge
  exact isJson_of_claimsOfPayload hclaims

/-- The tokens among the credentials are strings. -/
structure Credentials.HasStrings (c : Credentials) : Prop where
  idToken : c.idToken = .null ∨ c.idToken.IsString
  accessToken : ∀ token ∈ c.accessToken, token.value.IsString

namespace Profile

/-! ## Adding facts -/

section Adding

variable {merges : Bool} {facts : FactStore}

theorem addFact_eq_insert {key value : Value} (hkey : key.IsString) (hvisible : key.isBlank = false)
    (hvalue : value ≠ .null) (hstored : storedValue merges (facts.get? key) value = value) :
    addFact merges facts key value = .ok (facts.insert key value) := by
  rw [addFact, hvisible, Value.isNull_eq_false hvalue, Value.hashable_of_isText hkey.isText,
    hstored]
  rfl

theorem storedValue_of_isString (existing : Option Value) {v : Value} (hv : v.IsString) :
    storedValue merges existing v = v := by
  rcases hv with ⟨s, rfl⟩ | ⟨points, rfl, -⟩
  · rfl
  · rfl

/-- A value from JSON is stored as it is where there was none. -/
theorem storedValue_none_of_isJson {floats : Prop} {v : Value} (hv : v.IsJson floats) :
    storedValue merges none v = v := by
  cases hv with
  | string hs => exact storedValue_of_isString none hs
  | _ => rfl

/-- Facts under keys that are not there yet go to the end, but for those that are null. -/
theorem addFacts_of_lacks {entries : List (Value × Value)}
    (hentries : (Value.dict entries).IsJson False) (hvisible : ∀ e ∈ entries, e.1.isBlank = false)
    (hfresh : ∀ e ∈ entries, facts.Lacks e.1) :
    addFacts merges facts entries = (.ok (), facts ++ entries.filter (!·.2.isNull)) := by
  induction entries generalizing facts with
  | nil => rw [addFacts, List.filter_nil, List.append_nil]
  | cons entry rest ih =>
    obtain ⟨key, value⟩ := entry
    obtain ⟨hkeys, hdistinct, hvalues⟩ := hentries.of_dict
    have hkey : key.IsString := hkeys _ (List.mem_cons_self ..)
    have hvalue : value.IsJson False := hvalues _ (List.mem_cons_self ..)
    have hnew : key ∉ Entries.keys rest := (List.nodup_cons.1 hdistinct).1
    have hrest : (Value.dict rest).IsJson False :=
      hentries.sublist (List.sublist_cons_self _ rest)
    obtain ⟨hkeyVisible, hvisible⟩ := List.forall_mem_cons.1 hvisible
    obtain ⟨hlacks, hfresh⟩ := List.forall_mem_cons.1 hfresh
    by_cases hnull : value = .null
    · have hstep : addFact merges facts key .null = .ok facts := by
        rw [addFact, hkeyVisible]
        rfl
      rw [hnull, addFacts, hstep, List.filter_cons_of_neg (by simp [Value.isNull])]
      exact ih hrest hvisible hfresh
    · have hstored : storedValue merges (facts.get? key) value = value := by
        rw [Entries.get?_eq_none_of_lacks hlacks]
        exact storedValue_none_of_isJson hvalue
      have hstep : addFact merges facts key value = .ok (facts ++ [(key, value)]) := by
        rw [addFact_eq_insert hkey hkeyVisible hnull hstored, Entries.insert_of_lacks hlacks]
      -- the key that came in is none of those that follow
      have hlater : ∀ e ∈ rest, Entries.Lacks (facts ++ [(key, value)]) e.1 := by
        intro e he old hold
        rcases List.mem_append.1 hold with hold | hold
        · exact hfresh e he old hold
        · rw [List.mem_singleton.1 hold]
          refine Value.beq_eq_false_of_isText hkey.isText fun heq : key = e.1 => ?_
          rw [heq] at hnew
          exact hnew (List.mem_map_of_mem he)
      rw [addFacts, hstep, List.filter_cons_of_pos (by simp [Value.isNull_eq_false hnull])]
      simp only [ih hrest hvisible hlater, List.append_assoc, List.singleton_append]

/-- Strings are inserted one by one. -/
theorem addFacts_of_isString {entries : List (Value × Value)}
    (hkeys : ∀ e ∈ entries, e.1.IsString ∧ e.1.isBlank = false)
    (hvalues : ∀ e ∈ entries, e.2.IsString) :
    addFacts merges facts entries = (.ok (), facts.insertAll entries) := by
  induction entries generalizing facts with
  | nil => rfl
  | cons entry rest ih =>
    obtain ⟨key, value⟩ := entry
    obtain ⟨⟨hkey, hvisible⟩, hkeys⟩ := List.forall_mem_cons.1 hkeys
    obtain ⟨hvalue, hvalues⟩ := List.forall_mem_cons.1 hvalues
    have hpresent : value ≠ .null := by
      rintro rfl
      exact absurd hvalue.isText (by simp [Value.isText])
    have hstep : addFact merges facts key value = .ok (facts.insert key value) :=
      addFact_eq_insert hkey hvisible hpresent (storedValue_of_isString _ hvalue)
    rw [addFacts, hstep]
    exact ih hkeys hvalues

end Adding

/-! ## The profile of a login -/

/-- The claims besides the subject. -/
def otherClaims (claims : List (Value × Value)) : List (Value × Value) :=
  claims.filter fun (key, _) => !key.same (.text subjectClaim)

/-- The claims that become attributes. -/
def claimFacts (claims : List (Value × Value)) : FactStore :=
  (otherClaims claims).filter (!·.2.isNull)

/-- The tokens of a login, if there are credentials. -/
def loginTokens (credentials : Option Credentials) : List (Value × Value) :=
  (credentials.map tokenAttributes).getD []

theorem mem_claimFacts_iff {claims : List (Value × Value)} {c : Value × Value} :
    c ∈ claimFacts claims ↔ c ∈ claims ∧ c.1 ≠ .text subjectClaim ∧ c.2 ≠ .null := by
  rw [claimFacts, otherClaims, List.mem_filter, List.mem_filter, Bool.not_eq_true',
    Bool.not_eq_true', Bool.eq_false_iff, Bool.eq_false_iff, ne_eq, ne_eq, Value.isNull_iff,
    Value.same_text_right_iff, and_assoc]

section Login

variable {claims : List (Value × Value)} {credentials : Option Credentials}

theorem otherClaims_sublist : List.Sublist (otherClaims claims) claims := List.filter_sublist

theorem isJson_claimFacts (hclaims : (Value.dict claims).IsJson False) :
    (Value.dict (claimFacts claims)).IsJson False :=
  hclaims.sublist (List.filter_sublist.trans otherClaims_sublist)

theorem factsOf_otherClaims (hvisible : ∀ c ∈ claims, c.1.isBlank = false) :
    factsOf (.dict (otherClaims claims)) = .ok (otherClaims claims) := by
  have hkeys : (Entries.keys (otherClaims claims)).any Value.isBlank = false := by
    rw [List.any_eq_false]
    intro key hkey
    obtain ⟨c, hc, rfl⟩ := List.mem_map.1 hkey
    exact Bool.eq_false_iff.1 (hvisible c (otherClaims_sublist.subset hc))
  simp only [factsOf, Value.isNull, checkKeys, hkeys, if_neg Bool.false_ne_true, Except.map]

theorem addFacts_otherClaims (hclaims : (Value.dict claims).IsJson False)
    (hvisible : ∀ c ∈ claims, c.1.isBlank = false) (merges : Bool) :
    addFacts merges [] (otherClaims claims) = (.ok (), claimFacts claims) := by
  have hothers : ∀ c ∈ otherClaims claims, c.1.isBlank = false :=
    fun c hc => hvisible c (otherClaims_sublist.subset hc)
  have hfresh : ∀ c ∈ otherClaims claims, Entries.Lacks ([] : FactStore) c.1 := by
    intro c _ old hold
    exact absurd hold (by simp)
  rw [addFacts_of_lacks (hclaims.sublist otherClaims_sublist) hothers hfresh, List.nil_append]
  rfl

theorem isString_loginTokens (hcredentials : ∀ c ∈ credentials, c.HasStrings) :
    ∀ t ∈ loginTokens credentials, t.2.IsString := by
  cases credentials with
  | none => simp [loginTokens]
  | some c =>
    have hstrings : c.HasStrings := hcredentials c rfl
    intro t ht
    rcases List.mem_append.1 (show t ∈ tokenAttributes c from ht) with ht | ht
    · split at ht
      · next hgiven =>
        rw [List.mem_singleton.1 ht]
        rcases hstrings.idToken with hnull | hstring
        · exact absurd hgiven (by simp [hnull, Value.truthy])
        · exact hstring
      · exact absurd ht (by simp)
    · obtain ⟨token, htoken, rfl⟩ := List.mem_map.1 ht
      exact hstrings.accessToken token (Option.mem_toList.1 htoken)

/-- The names of tokens, each of which a login has at most once. -/
theorem keys_loginTokens_sublist :
    List.Sublist (Entries.keys (loginTokens credentials))
      [.text "id_token", .text "access_token"] := by
  cases credentials with
  | none => exact List.nil_sublist _
  | some c =>
    have hid : List.Sublist
        (Entries.keys (if c.idToken.truthy then [(Value.text "id_token", c.idToken)] else []))
        [.text "id_token"] := by
      split
      · exact List.Sublist.refl _
      · exact List.nil_sublist _
    have haccess : List.Sublist (Entries.keys
        (c.accessToken.toList.map fun token => (Value.text "access_token", token.value)))
        [.text "access_token"] := by
      cases c.accessToken with
      | none => exact List.nil_sublist _
      | some token => exact List.Sublist.refl _
    show List.Sublist ((_ ++ _ : List (Value × Value)).map (·.1)) _
    rw [List.map_append]
    exact hid.append haccess

theorem nodup_keys_loginTokens : (Entries.keys (loginTokens credentials)).Nodup :=
  List.Nodup.sublist keys_loginTokens_sublist (by simp)

theorem key_of_mem_loginTokens {t : Value × Value} (ht : t ∈ loginTokens credentials) :
    t.1 = .text "id_token" ∨ t.1 = .text "access_token" := by
  have hmem : t.1 ∈ [Value.text "id_token", .text "access_token"] :=
    keys_loginTokens_sublist.subset (List.mem_map_of_mem ht)
  simpa using hmem

theorem isString_key_of_mem_loginTokens {t : Value × Value} (ht : t ∈ loginTokens credentials) :
    t.1.IsString ∧ t.1.isBlank = false := by
  rcases key_of_mem_loginTokens ht with hkey | hkey
  · rw [hkey]
    exact ⟨Value.isString_text _, by decide⟩
  · rw [hkey]
    exact ⟨Value.isString_text _, by decide⟩

theorem isExact_key_of_mem_loginTokens {t : Value × Value} (ht : t ∈ loginTokens credentials) :
    Entries.IsExact t.1 := by
  intro k
  rcases key_of_mem_loginTokens ht with hkey | hkey
  · rw [hkey]
    exact Value.same_text_right_iff
  · rw [hkey]
    exact Value.same_text_right_iff

variable (claims credentials) in
/-- What a login gives. -/
def ofLogin (merges : Bool) : Profile where
  kind := .oidc
  merges := merges
  id := some (Value.fieldD claims subjectClaim).display
  attributes := (claimFacts claims).insertAll (loginTokens credentials)

/-- **A login gives a profile** if its subject is visible and the names of its claims are. -/
theorem ofClaims_eq (hclaims : (Value.dict claims).IsJson False)
    (hkeys : ∀ c ∈ claims, c.1.isBlank = false)
    (hsubject : (Value.fieldD claims subjectClaim).isBlank = false)
    (hcredentials : ∀ c ∈ credentials, c.HasStrings) (merges : Bool) :
    ofClaims (.dict claims) credentials merges = .ok (ofLogin claims credentials merges) := by
  have hset : setId { kind := .oidc, merges } (Value.fieldD claims subjectClaim)
      = (.ok (), { kind := .oidc, merges
                   id := some (Value.fieldD claims subjectClaim).display }) := by
    rw [setId, hsubject]
    rfl
  have hothers := factsOf_otherClaims hkeys
  have hadded := addFacts_otherClaims hclaims hkeys merges
  have htokens : addFacts merges (claimFacts claims) (loginTokens credentials)
      = (.ok (), (claimFacts claims).insertAll (loginTokens credentials)) :=
    addFacts_of_isString (fun t ht => isString_key_of_mem_loginTokens ht)
      (isString_loginTokens hcredentials)
  rw [otherClaims] at hothers hadded
  rw [loginTokens] at htokens
  simp only [ofClaims, hset, addAll, hothers, facts, hadded, withFacts, htokens]
  rfl

theorem hasStorableParts_ofLogin (hsubject : (Value.fieldD claims subjectClaim).isBlank = false)
    (merges : Bool) : (ofLogin claims credentials merges).HasStorableParts where
  id := by
    intro s hs
    rw [← Option.some.inj hs]
    exact isBlankText_display hsubject
  roles := ⟨by simp [ofLogin], by simp [ofLogin], by simp [ofLogin]⟩
  permissions := ⟨by simp [ofLogin], by simp [ofLogin], by simp [ofLogin]⟩
  remembered := ⟨false, rfl⟩
  linkedId := Or.inl rfl
  clientName := Or.inl rfl

theorem isJson_facts_ofLogin (hclaims : (Value.dict claims).IsJson False)
    (hcredentials : ∀ c ∈ credentials, c.HasStrings) (merges : Bool) (k : FactKind) :
    (Value.dict ((ofLogin claims credentials merges).facts k)).IsJson False := by
  match k with
  | .authentication => exact .dict (by simp [facts, ofLogin]) .nil (by simp [facts, ofLogin])
  | .attribute =>
    obtain ⟨hkeys, hdistinct, hvalues⟩ := (isJson_claimFacts hclaims).of_dict
    have hfacts : ∀ f ∈ (claimFacts claims).insertAll (loginTokens credentials),
        f.1.IsString ∧ f.2.IsJson False :=
      Entries.forall_mem_insertAll (fun c hc => ⟨hkeys c hc, hvalues c hc⟩) fun t ht =>
        ⟨(isString_key_of_mem_loginTokens ht).1, .string (isString_loginTokens hcredentials t ht)⟩
    have hnodup : (Entries.keys ((claimFacts claims).insertAll (loginTokens credentials))).Nodup :=
      Entries.nodup_keys_insertAll hdistinct
        fun t ht => (isExact_key_of_mem_loginTokens ht t.1).2 rfl
    exact .dict (fun f hf => (hfacts f hf).1) hnodup fun f hf => (hfacts f hf).2

theorem mem_attributes_ofLogin_iff (hclaims : (Value.dict claims).IsJson False) (merges : Bool)
    {f : Value × Value} :
    f ∈ (ofLogin claims credentials merges).attributes ↔
      f ∈ loginTokens credentials ∨ f ∈ claimFacts claims
        ∧ ∀ t ∈ loginTokens credentials, t.1 ≠ f.1 :=
  Entries.mem_insertAll_iff (isJson_claimFacts hclaims).of_dict.2.1
    (fun _ ht => isExact_key_of_mem_loginTokens ht) nodup_keys_loginTokens

/-- **A login survives exactly if no claim that stays looks like a tag or is nested too deep.** -/
theorem login_survives_iff (hclaims : (Value.dict claims).IsJson False)
    (hkeys : ∀ c ∈ claims, c.1.isBlank = false)
    (hsubject : (Value.fieldD claims subjectClaim).isBlank = false)
    (hcredentials : ∀ c ∈ credentials, c.HasStrings) (merges : Bool) {e : Encoding}
    (he : e ∈ Encoding.ofProfiles) :
    ∃ p, ofClaims (.dict claims) credentials merges = .ok p
      ∧ (p.Survives e ↔ ∀ c ∈ claims, c.1 ≠ .text subjectClaim →
          (∀ t ∈ loginTokens credentials, t.1 ≠ c.1) →
          Plain maxListDepth c.2 ∧ Json.NestedWithin (Json.maxDepth - 2) c.2) := by
  refine ⟨ofLogin claims credentials merges,
    ofClaims_eq hclaims hkeys hsubject hcredentials merges, ?_⟩
  rw [survives_iff (hasStorableParts_ofLogin hsubject merges)
    (isJson_facts_ofLogin hclaims hcredentials merges) he]
  constructor
  · intro h c hc hother hkept
    -- a claim that is null is no attribute, and it breaks no rule
    by_cases hnull : c.2 = .null
    · rw [hnull]
      exact ⟨.scalar (by simp) (by simp), .scalar (by simp) (by simp)⟩
    · have hmem : c ∈ claimFacts claims := mem_claimFacts_iff.2 ⟨hc, hother, hnull⟩
      exact h .attribute c ((mem_attributes_ofLogin_iff hclaims merges).2 (Or.inr ⟨hmem, hkept⟩))
  · intro h k f hf
    match k with
    | .authentication => exact absurd hf (by simp [facts, ofLogin])
    | .attribute =>
      rcases (mem_attributes_ofLogin_iff hclaims merges).1 hf with ht | ⟨hc, hkept⟩
      · have hstring : f.2.IsString := isString_loginTokens hcredentials f ht
        exact ⟨plain_of_isString hstring, Json.nestedWithin_of_isString hstring⟩
      · obtain ⟨hmem, hother, -⟩ := mem_claimFacts_iff.1 hc
        exact h f hmem hother hkept

end Login

/-! ## Examples -/

/-- The claims of a subject with an object of one member. -/
def objectClaims (name : String) : List (Value × Value) :=
  [(.text "sub", .text "a"), (.text "x", .dict [(.text name, .text "b")])]

def exampleCredentials : Credentials := ⟨.null, .text "t", none, by decide⟩

theorem isJson_objectClaims (name : String) : (Value.dict (objectClaims name)).IsJson False := by
  have hobject : (Value.dict [(.text name, .text "b")]).IsJson False := by
    refine .dict ?_ (by simp [Entries.keys]) ?_
    · rw [List.forall_mem_singleton]
      exact Value.isString_text _
    · rw [List.forall_mem_singleton]
      exact .string (Value.isString_text _)
  refine .dict ?_ (by simp [objectClaims, Entries.keys]) ?_
  · simp [objectClaims, Value.isString_text]
  · simp only [objectClaims, List.forall_mem_cons, List.not_mem_nil, false_implies, implies_true,
      and_true]
    exact ⟨.string (Value.isString_text _), hobject⟩

theorem visible_objectClaims (name : String) :
    (∀ c ∈ objectClaims name, c.1.isBlank = false)
      ∧ (Value.fieldD (objectClaims name) subjectClaim).isBlank = false := by
  constructor
  · simp only [objectClaims, List.forall_mem_cons, List.not_mem_nil, false_implies, implies_true,
      and_true]
    exact ⟨by decide, by decide⟩
  · have hsubject : Value.fieldD (objectClaims name) subjectClaim = .text "a" := by cbv
    rw [hsubject]
    decide

theorem hasStrings_exampleCredentials : ∀ c ∈ some exampleCredentials, c.HasStrings := by
  intro c hc
  obtain rfl := Option.some.inj hc
  exact ⟨Or.inr (Value.isString_text "t"), fun token htoken => absurd htoken (by
    simp [exampleCredentials])⟩

theorem nestedWithin_object (name : String) :
    Json.NestedWithin (Json.maxDepth - 2) (.dict [(.text name, .text "b")]) :=
  .dict (List.forall_mem_singleton.2 (Json.nestedWithin_of_isString (Value.isString_text "b")))

/-- An object that does not look like a tag survives. -/
theorem survives_objectClaims :
    ∃ p, ofClaims (.dict (objectClaims "street")) (some exampleCredentials) true = .ok p
      ∧ p.Survives .utf8 := by
  obtain ⟨hkeys, hsubject⟩ := visible_objectClaims "street"
  obtain ⟨p, hp, hsurvives⟩ := login_survives_iff (isJson_objectClaims "street") hkeys hsubject
    hasStrings_exampleCredentials true (e := .utf8) (by decide)
  refine ⟨p, hp, hsurvives.2 fun c hc hother _ => ?_⟩
  rcases List.mem_cons.1 hc with rfl | hc
  · exact absurd rfl hother
  · rw [List.mem_singleton.1 hc]
    exact ⟨.dict (by cbv), nestedWithin_object "street"⟩

theorem attributes_objectClaims (name : String) :
    (ofLogin (objectClaims name) none true).attributes
      = [(.text "x", .dict [(.text name, .text "b")])] := by
  cbv

theorem readFacts_tag : readFacts [(.text "x", .dict [(.text enumerationTag, .text "b")])]
    = .error (.refused (.unknownEnumeration (.text "b"))) := by
  have hfield : Value.field? [(.text enumerationTag, .text "b")] enumerationTag
      = some (.text "b") := by cbv
  have hvalue : Value.fieldD [(.text enumerationTag, .text "b")] "value" = .null := by cbv
  have htag : memberOfTag (.text "b") .null
      = .error (.refused (.unknownEnumeration (.text "b"))) := by cbv
  rw [readFacts, ofStoredForm, hfield, hvalue]
  show (memberOfTag (.text "b") .null >>= _) = _
  rw [htag]
  rfl

/-- An object that looks like a tag is stored, but what is stored cannot be read. -/
theorem lost_objectClaims :
    ∃ p bytes, ofClaims (.dict (objectClaims enumerationTag)) none true = .ok p
      ∧ p.serialize .utf8 = .ok bytes
      ∧ deserialize .utf8 bytes = .error (.refused (.unknownEnumeration (.text "b"))) := by
  obtain ⟨hkeys, hsubject⟩ := visible_objectClaims enumerationTag
  have hclaims := isJson_objectClaims enumerationTag
  have hcredentials : ∀ c ∈ (none : Option Credentials), c.HasStrings := by
    intro c hc
    exact absurd hc (by simp)
  have hstored : ∀ k, storedFacts ((ofLogin (objectClaims enumerationTag) none true).facts k)
      = .ok ((ofLogin (objectClaims enumerationTag) none true).facts k) := by
    intro k
    rcases k with _ | _
    · rw [facts, attributes_objectClaims]
      simp [storedFacts, storedForm]
    · rfl
  have hnested : ∀ k, ∀ f ∈ (ofLogin (objectClaims enumerationTag) none true).facts k,
      Json.NestedWithin (Json.maxDepth - 2) f.2 := by
    intro k f hf
    rcases k with _ | _
    · rw [facts, attributes_objectClaims] at hf
      rw [List.mem_singleton.1 hf]
      exact nestedWithin_object enumerationTag
    · exact absurd hf (by simp [facts, ofLogin])
  obtain ⟨bytes, hserialize, hdeserialize⟩ := exists_serialize_of_nestedWithin
    (hasStorableParts_ofLogin hsubject true) (isJson_facts_ofLogin hclaims hcredentials true)
    (e := .utf8) (by decide) hstored hnested
  refine ⟨_, bytes, ofClaims_eq hclaims hkeys hsubject hcredentials true, hserialize, ?_⟩
  rw [hdeserialize, attributes_objectClaims, readFacts_tag]
  rfl

end Profile

end RelyingParty
