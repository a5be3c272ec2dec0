import RelyingParty.Proofs.Token.Acceptance
import RelyingParty.Proofs.Value.Equality

set_option autoImplicit false

/-! # Policies

A `Policy` is what a client asks of tokens, with the types it is declared with, and a validator that
is made for it has its `terms`.

The first two checks of a token are here: its header has to name an algorithm that the policy
`Allows`, and the token has to be `Signed` under it. The search for a key goes through the document
in order and may come to a fault instead, so both ends of it depend on the keys that were passed. -/

namespace RelyingParty.Token

/-! ## Policies -/

/-- What a client asks of tokens. -/
structure Policy where
  issuer : String
  clientId : String
  /-- The algorithms that are allowed, if any are named. -/
  algorithms : Option (List String)
  /-- The seconds by which clocks may differ. -/
  leeway : Int

namespace Policy

/-- Names as a value; null if there are none. -/
def namesValue : Option (List String) → Value
  | some names => .list (names.map .text)
  | none => .null

/-- The algorithms that are allowed: one, unless others are named. -/
def allowed (p : Policy) : List String :=
  match p.algorithms with
  | none | some [] => ["RS256"]
  | some names => names

/-- The terms of a policy. -/
def terms (p : Policy) : Terms :=
  ⟨p.issuer, .text p.clientId, .list (p.allowed.map .text), .int p.leeway⟩

/-- The validator for a policy. -/
def validator (p : Policy) (keysAddress : Option String) (cache : Option KeyCache) :
    Except SetupError KeyValidator :=
  KeyValidator.create p.issuer keysAddress (.text p.clientId) cache (namesValue p.algorithms)
    (.int p.leeway)

/-- Algorithms that are not named, or an empty list of them, give way to the one that is usual. -/
theorem allowed_value (p : Policy) :
    (if (namesValue p.algorithms).truthy then namesValue p.algorithms else defaultAlgorithms)
      = .list (p.allowed.map .text) := by
  unfold allowed
  cases p.algorithms with
  | none => rfl
  | some names =>
    cases names with
    | nil => rfl
    | cons name rest => rfl

theorem terms_validator {p : Policy} {keysAddress : Option String} {cache : Option KeyCache}
    {v : KeyValidator} (h : p.validator keysAddress cache = .ok v) : v.terms = p.terms := by
  rw [validator, KeyValidator.create, allowed_value] at h
  split at h
  · exact absurd h (by simp)
  · cases cache with
    | some cache =>
      obtain rfl := Except.ok.inj h
      rfl
    | none =>
      dsimp only at h
      split at h
      · exact absurd h (by simp)
      · obtain rfl := Except.ok.inj h
        rfl

end Policy

/-! ## The algorithm -/

theorem any_same_map_text_iff {v : Value} {names : List String} :
    (names.map Value.text).any v.same = true ↔ ∃ name ∈ names, v = .text name := by
  simp only [List.any_map, List.any_eq_true, Function.comp_apply, Value.same_text_right_iff]

/-- The header of a token names an algorithm that a policy allows. -/
structure Allows (p : Policy) (header : List (Value × Value)) (name : String) : Prop where
  named : Value.field? header "alg" = some (.text name)
  nonempty : name ≠ ""
  allowed : name ∈ p.allowed

/-- Under a policy a header is never at fault. -/
theorem algorithm_terms (p : Policy) (header : List (Value × Value)) :
    p.terms.algorithm header =
      if (Value.fieldD header "alg").truthy then
        if (p.allowed.map Value.text).any (Value.fieldD header "alg").same then
          .ok (Value.fieldD header "alg")
        else .error (.refused .algorithmNotAllowed)
      else .error (.refused .noAlgorithm) := by
  have hallows : allows p.terms.algorithms (Value.fieldD header "alg")
      = .ok ((p.allowed.map Value.text).any (Value.fieldD header "alg").same) := rfl
  unfold Terms.algorithm
  cases htruthy : (Value.fieldD header "alg").truthy with
  | false => simp [htruthy, bind, Except.bind]
  | true => simp [htruthy, hallows]

theorem algorithm_eq_ok_iff {p : Policy} {header : List (Value × Value)} {alg : Value} :
    p.terms.algorithm header = .ok alg ↔ ∃ name, alg = .text name ∧ Allows p header name := by
  rw [algorithm_terms]
  constructor
  · intro h
    split at h
    · next htruthy =>
      split at h
      · next hany =>
        obtain rfl := Except.ok.inj h
        obtain ⟨name, hallowed, hname⟩ := any_same_map_text_iff.1 hany
        rw [hname] at htruthy
        exact ⟨name, hname, (Value.fieldD_eq_iff (by simp)).1 hname,
          by simpa [Value.truthy] using htruthy, hallowed⟩
      · exact absurd h (by simp)
    · exact absurd h (by simp)
  · rintro ⟨name, rfl, hnamed, hne, hallowed⟩
    have hname : Value.fieldD header "alg" = .text name := (Value.fieldD_eq_iff (by simp)).2 hnamed
    have htruthy : (Value.text name).truthy = true := by simpa [Value.truthy] using hne
    rw [hname, if_pos htruthy, if_pos (any_same_map_text_iff.2 ⟨name, hallowed, rfl⟩)]

theorem algorithm_ne_fault {p : Policy} {header : List (Value × Value)} {cause : Fault} :
    p.terms.algorithm header ≠ .error (.fault cause) := by
  rw [algorithm_terms]
  split
  · split <;> simp
  · simp

/-! ## The signature -/

section Signatures

variable {check : Key.Check} {name document : Value} {text signature : Bytes}

/-- A search that finds something or fails ends at a key that does, and the keys before it can be
    used and do not verify the signature. -/
theorem anyVerifies_eq_iff {keys : List Value} {result : Except Key.KeyFailure Bool}
    (hresult : result ≠ .ok false) :
    Key.anyVerifies check name text signature keys = result ↔
      ∃ earlier key later, keys = earlier ++ key :: later
        ∧ (∀ k ∈ earlier, check name k text signature = .ok false)
        ∧ check name key text signature = result := by
  induction keys with
  | nil =>
    refine iff_of_false (fun h => hresult h.symm) ?_
    rintro ⟨earlier, key, later, h, -⟩
    exact absurd h (by simp)
  | cons first rest ih =>
    by_cases hfirst : check name first text signature = .ok false
    · -- a key that does not verify the signature is passed over
      have hrest : Key.anyVerifies check name text signature (first :: rest)
          = Key.anyVerifies check name text signature rest := by
        rw [Key.anyVerifies, hfirst]
      rw [hrest, ih]
      constructor
      · rintro ⟨earlier, key, later, rfl, hearlier, hkey⟩
        exact ⟨first :: earlier, key, later, rfl, List.forall_mem_cons.2 ⟨hfirst, hearlier⟩, hkey⟩
      · rintro ⟨earlier, key, later, heq, hearlier, hkey⟩
        cases earlier with
        | nil =>
          obtain ⟨rfl, rfl⟩ := List.cons.inj heq
          exact absurd (hkey.symm.trans hfirst) hresult
        | cons other earlier =>
          obtain ⟨rfl, rfl⟩ := List.cons.inj heq
          exact ⟨earlier, key, later, rfl, (List.forall_mem_cons.1 hearlier).2, hkey⟩
    · -- any other key ends the search
      have hend : Key.anyVerifies check name text signature (first :: rest)
          = check name first text signature := by
        rw [Key.anyVerifies]
        split
        · next h => exact h.symm
        · next h => exact h.symm
        · next h => exact absurd h hfirst
      rw [hend]
      constructor
      · intro h
        exact ⟨[], first, rest, rfl, by simp, h⟩
      · rintro ⟨earlier, key, later, heq, hearlier, hkey⟩
        cases earlier with
        | nil =>
          obtain ⟨rfl, rfl⟩ := List.cons.inj heq
          exact hkey
        | cons other earlier =>
          obtain ⟨rfl, rfl⟩ := List.cons.inj heq
          exact absurd (hearlier _ (List.mem_cons_self ..)) hfirst

/-- One of the keys of a document verifies a signature, and those before it can be used. -/
def Signed (check : Key.Check) (document name : Value) (text signature : Bytes) : Prop :=
  ∃ earlier key later, Key.candidates document = .ok (earlier ++ key :: later)
    ∧ (∀ k ∈ earlier, check name k text signature = .ok false)
    ∧ check name key text signature = .ok true

/-- A document has no keys to try exactly if it is a set of keys that is no collection. -/
theorem candidates_eq_error_iff {cause : Fault} :
    Key.candidates document = .error cause ↔
      ∃ entries keys, Key.opened document = .dict entries
        ∧ Value.field? entries "keys" = some keys ∧ keys.elements = .error cause := by
  unfold Key.candidates
  cases Key.opened document with
  | dict entries =>
    dsimp only
    cases hkeys : Value.field? entries "keys" with
    | some keys => simp [hkeys]
    | none =>
      dsimp only
      split <;> simp [hkeys]
  | _ => simp

/-- The search for a key that verifies a signature comes to a fault: the keys of the document are
    no collection, or the search gets to a key that is at fault. -/
inductive SearchFault (check : Key.Check) (document name : Value) (text signature : Bytes)
    (cause : Fault) : Prop where
  | document (entries : List (Value × Value)) (keys : Value)
      (object : Key.opened document = .dict entries)
      (member : Value.field? entries "keys" = some keys) (h : keys.elements = .error cause)
  | key (earlier : List Value) (key : Value) (later : List Value)
      (keys : Key.candidates document = .ok (earlier ++ key :: later))
      (passed : ∀ k ∈ earlier, check name k text signature = .ok false)
      (h : check name key text signature = .error (.fault cause))

theorem checkSignature_eq_ok_iff {token : Compact} :
    Terms.checkSignature check document name token = .ok () ↔
      Signed check document name token.signingInput token.signature := by
  unfold Terms.checkSignature Signed
  rw [bind_eq_ok_iff]
  constructor
  · rintro ⟨keys, hkeys, h⟩
    obtain ⟨verified, hverified, h⟩ := bind_eq_ok_iff.1 h
    split at h
    · next htrue =>
      obtain rfl : verified = true := htrue
      obtain ⟨earlier, key, later, rfl, hearlier, hkey⟩ :=
        (anyVerifies_eq_iff (by simp)).1 (mapError_eq_ok_iff.1 hverified)
      exact ⟨earlier, key, later, mapError_eq_ok_iff.1 hkeys, hearlier, hkey⟩
    · exact absurd h (by simp)
  · rintro ⟨earlier, key, later, hkeys, hearlier, hkey⟩
    refine ⟨_, mapError_eq_ok_iff.2 hkeys, ?_⟩
    dsimp only
    rw [(anyVerifies_eq_iff (by simp)).2 ⟨earlier, key, later, rfl, hearlier, hkey⟩]
    rfl

theorem checkSignature_fault_iff {token : Compact} {cause : Fault} :
    Terms.checkSignature check document name token = .error (.fault cause) ↔
      SearchFault check document name token.signingInput token.signature cause := by
  unfold Terms.checkSignature
  rw [bind_eq_error_iff]
  constructor
  · rintro (h | ⟨keys, hkeys, h⟩)
    · obtain ⟨_, hdocument, heq⟩ := mapError_eq_error_iff.1 h
      obtain rfl := Failure.fault.inj heq
      obtain ⟨entries, keys, hobject, hmember, hkeys⟩ := candidates_eq_error_iff.1 hdocument
      exact .document entries keys hobject hmember hkeys
    · rcases bind_eq_error_iff.1 h with h | ⟨verified, -, h⟩
      · obtain ⟨earlier, key, later, rfl, hearlier, hkey⟩ :=
          (anyVerifies_eq_iff (by simp)).1 (mapError_map_eq_fault_iff.1 h)
        exact .key earlier key later (mapError_eq_ok_iff.1 hkeys) hearlier hkey
      · split at h
        · exact absurd h (by simp)
        · exact absurd h (by simp)
  · rintro (⟨entries, keys, hobject, hmember, hkeys⟩ | ⟨earlier, key, later, hkeys, hearlier, hkey⟩)
    · have hdocument : Key.candidates document = .error cause :=
        candidates_eq_error_iff.2 ⟨entries, keys, hobject, hmember, hkeys⟩
      exact Or.inl (mapError_eq_error_iff.2 ⟨cause, hdocument, rfl⟩)
    · refine Or.inr ⟨_, mapError_eq_ok_iff.2 hkeys, bind_eq_error_iff.2 (Or.inl ?_)⟩
      rw [mapError_map_eq_fault_iff]
      exact (anyVerifies_eq_iff (by simp)).2 ⟨earlier, key, later, rfl, hearlier, hkey⟩

end Signatures

end RelyingParty.Token
