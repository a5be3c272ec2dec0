import RelyingParty.Proofs.Json.Depth
import RelyingParty.Proofs.Steps
import RelyingParty.Proofs.Token.Segments

set_option autoImplicit false

/-! # Tokens that are not read to their end

Reading a token ends in a verdict about it, with one exception: the payload of a signed token and
the header of an encrypted one may be nested too deep, and then there is a fault. `ofText_fault_iff`
says that there is no other way to it, and `nestedTooDeep_deepToken` that there are such tokens. -/

namespace RelyingParty

/-- A token with a part that is nested too deep: the payload of a signed token that otherwise comes
    apart, or the header of an encrypted one. -/
inductive NestedTooDeep (token : String) : Prop where
  | payload (compact : Compact) (three : segmentCount token = 3)
      (parts : Compact.ofText token = .ok compact)
      (deep : Json.readBytes .utf8 compact.payload = .error .tooDeep)
  | header (header key initialVector cipherText tag bytes : Bytes)
      (five : segmentCount token = 5)
      (parts : segments (Text.utf8 token) = [header, key, initialVector, cipherText, tag])
      (decoded : Base64.decode? header = some bytes)
      (deep : Json.readDetected bytes = .error .tooDeep)

/-! ## Parts of a token -/

theorem ObjectError.fault?_eq_some_iff {e : ObjectError} {cause : Fault} :
    e.fault? = some cause ↔ cause = .tooDeep ∧ e = .tooDeep := by
  cases e with
  | tooDeep => simp [ObjectError.fault?, eq_comm]
  | _ => simp [ObjectError.fault?]

theorem SealedError.fault?_eq_some_iff {e : SealedError} {cause : Fault} :
    e.fault? = some cause ↔ cause = .tooDeep ∧ e = .header .tooDeep := by
  cases e with
  | header e => simp [SealedError.fault?, ObjectError.fault?_eq_some_iff]
  | _ => simp [SealedError.fault?]

theorem ParseError.failure_eq_fault_iff {e : ParseError} {fault : Option Fault} {cause : Fault} :
    e.failure fault = .fault cause ↔ fault = some cause := by
  cases fault <;> simp [ParseError.failure]

/-- A segment that has to be base64 says nothing about the header. -/
theorem checkPart_ne_header (p : SealedPart) (segment : Bytes) (e : ObjectError) :
    checkPart p segment ≠ .error (.header e) := by
  unfold checkPart
  split <;> simp

/-- The header of an encrypted token is nested too deep exactly if it is base64 of such a text;
    the other segments are not looked at then. -/
theorem sealedHeader_tooDeep_iff {token : String} :
    sealedHeader token = .error (.header .tooDeep) ↔
      ∃ header key initialVector cipherText tag bytes,
        segments (Text.utf8 token) = [header, key, initialVector, cipherText, tag]
          ∧ Base64.decode? header = some bytes ∧ Json.readDetected bytes = .error .tooDeep := by
  unfold sealedHeader
  split
  · next header key initialVector cipherText tag hsegments =>
    have hparts : (∃ header' key' initialVector' cipherText' tag' bytes,
        segments (Text.utf8 token) = [header', key', initialVector', cipherText', tag']
          ∧ Base64.decode? header' = some bytes ∧ Json.readDetected bytes = .error .tooDeep) ↔
        ∃ bytes, Base64.decode? header = some bytes
          ∧ Json.readDetected bytes = .error .tooDeep := by
      rw [hsegments]
      constructor
      · rintro ⟨_, _, _, _, _, bytes, heq, hb⟩
        cases heq
        exact ⟨bytes, hb⟩
      · rintro ⟨bytes, hb⟩
        exact ⟨header, key, initialVector, cipherText, tag, bytes, rfl, hb⟩
    rw [hparts]
    cases hheader : Base64.decode? header with
    | none => simp
    | some bytes =>
      simp only [bind_eq_error_iff, mapError_eq_error_iff, checkPart_ne_header, pure_eq_ok]
      simp [membersOf_tooDeep_iff]
  · next hne =>
    constructor
    · intro h
      exact absurd h (by simp)
    · rintro ⟨header, key, initialVector, cipherText, tag, _, heq, -⟩
      exact absurd heq (hne header key initialVector cipherText tag)

/-! ## Tokens of either kind -/

/-- A blank text has one segment. -/
theorem segmentCount_of_isBlankText {token : String} (h : Text.isBlankText token = true) :
    segmentCount token = 1 := by
  have hpoint : '.' ∉ token.toList := by
    intro hmem
    have hblank : Text.isBlank '.' = true := List.all_eq_true.1 h '.' hmem
    exact absurd hblank (by decide)
  rw [segmentCount, List.count_eq_zero_of_not_mem hpoint]

namespace ParsedToken

theorem ofSigned_fault_iff {token : String} {cause : Fault} :
    ofSigned token = .error (.fault cause) ↔
      cause = .tooDeep ∧ ∃ compact, Compact.ofText token = .ok compact
        ∧ Json.readBytes .utf8 compact.payload = .error .tooDeep := by
  unfold ofSigned
  cases hparts : Compact.ofText token with
  | error e => simp
  | ok compact =>
    have hdeep : claimsOfPayload compact.payload = .error .tooDeep ↔
        Json.readBytes .utf8 compact.payload = .error .tooDeep := membersOf_tooDeep_iff
    cases hclaims : claimsOfPayload compact.payload with
    | ok claims => simp [← hdeep, hclaims]
    | error e =>
      simp only [Except.error.injEq, ParseError.failure_eq_fault_iff,
        ObjectError.fault?_eq_some_iff, Except.ok.injEq, exists_eq_left', ← hdeep, hclaims]

theorem ofEncrypted_fault_iff {token : String} {cause : Fault} :
    ofEncrypted token = .error (.fault cause) ↔
      cause = .tooDeep ∧ sealedHeader token = .error (.header .tooDeep) := by
  unfold ofEncrypted
  cases hheader : sealedHeader token with
  | ok header => simp
  | error e =>
    simp only [Except.error.injEq, ParseError.failure_eq_fault_iff, SealedError.fault?_eq_some_iff]

/-- **Reading a token ends with a fault exactly if a part of it is nested too deep.** -/
theorem ofText_fault_iff {token : String} {cause : Fault} :
    ofText token = .error (.fault cause) ↔ cause = .tooDeep ∧ NestedTooDeep token := by
  have hblank : Text.isBlankText token = true → ¬ NestedTooDeep token := by
    intro h
    rintro (⟨_, three, _, _⟩ | ⟨_, _, _, _, _, _, five, _, _, _⟩)
    · rw [segmentCount_of_isBlankText h] at three
      exact absurd three (by decide)
    · rw [segmentCount_of_isBlankText h] at five
      exact absurd five (by decide)
  -- the number of segments decides which of the two parts may be too deep
  unfold ofText
  split
  · next h => simp [hblank h]
  · split
    · next five =>
      rw [ofEncrypted_fault_iff, sealedHeader_tooDeep_iff]
      constructor
      · rintro ⟨rfl, header, key, vector, cipher, tag, bytes, parts, decoded, deep⟩
        exact ⟨rfl, .header header key vector cipher tag bytes five parts decoded deep⟩
      · rintro ⟨rfl, ⟨_, three, _, _⟩ | ⟨header, key, vector, cipher, tag, bytes, _, parts, decoded,
          deep⟩⟩
        · rw [five] at three
          exact absurd three (by decide)
        · exact ⟨rfl, header, key, vector, cipher, tag, bytes, parts, decoded, deep⟩
    · next hfive =>
      split
      · next three =>
        rw [ofSigned_fault_iff]
        constructor
        · rintro ⟨rfl, compact, parts, deep⟩
          exact ⟨rfl, .payload compact three parts deep⟩
        · rintro ⟨rfl, ⟨compact, _, parts, deep⟩ | ⟨_, _, _, _, _, _, five, _, _, _⟩⟩
          · exact ⟨rfl, compact, parts, deep⟩
          · exact absurd five hfive
      · next hthree =>
        constructor
        · intro h
          exact absurd h (by simp)
        · rintro ⟨-, ⟨_, three, _, _⟩ | ⟨_, _, _, _, _, _, five, _, _, _⟩⟩
          · exact absurd three hthree
          · exact absurd five hfive

/-- A token with three segments is read if it comes apart and its payload holds claims. -/
theorem ofText_of_parts {token : String} {compact : Compact} {claims : List (Value × Value)}
    (three : segmentCount token = 3) (hparts : Compact.ofText token = .ok compact)
    (hclaims : claimsOfPayload compact.payload = .ok claims) :
    ofText token = .ok ⟨token, compact.header, claims, false⟩ := by
  have hblank : Text.isBlankText token ≠ true := by
    intro h
    rw [segmentCount_of_isBlankText h] at three
    exact absurd three (by decide)
  rw [ofText, if_neg hblank, three, if_neg (by decide), if_pos rfl, ofSigned, hparts]
  dsimp only
  rw [hclaims]

/-- A token that is made of a header and claims is read. -/
theorem ofText_write {header payload : Bytes} {members claims : List (Value × Value)}
    (hheader : membersOf (Json.readBytes .utf8 header) = .ok members)
    (hpayload : membersOf (Json.readBytes .utf8 payload) = .ok claims) (signature : Bytes) :
    ofText (Compact.write header payload signature)
      = .ok ⟨Compact.write header payload signature, members, claims, false⟩ :=
  ofText_of_parts (Compact.segmentCount_write _ _ _) (Compact.ofText_write hheader _ _) hpayload

/-- A token that is read as a signed one has three segments. -/
theorem segmentCount_of_signed {token : String} {parsed : ParsedToken}
    (h : ofText token = .ok parsed) (hsigned : parsed.encrypted = false) :
    segmentCount token = 3 := by
  unfold ofText at h
  split at h
  · exact absurd h (by simp)
  · split at h
    · unfold ofEncrypted at h
      split at h
      · exact absurd h (by simp)
      · obtain rfl := Except.ok.inj h
        exact absurd hsigned (by simp)
    · split at h
      · next three => exact three
      · exact absurd h (by simp)

end ParsedToken

/-! ## Deep tokens and others -/

/-- The text of an object without members. -/
def emptyObject : List Char := ['\x7b', '\x7d']

theorem membersOf_emptyObject :
    membersOf (Json.readBytes .utf8 (Text.asciiBytes emptyObject)) = .ok [] := by
  rw [Json.readBytes_asciiBytes (by decide)]
  rfl

/-- A token with an empty header and no claims. -/
def emptyToken : String :=
  Compact.write (Text.asciiBytes emptyObject) (Text.asciiBytes emptyObject) []

theorem ofText_emptyToken : ParsedToken.ofText emptyToken = .ok ⟨emptyToken, [], [], false⟩ :=
  ParsedToken.ofText_write membersOf_emptyObject membersOf_emptyObject []

theorem not_nestedTooDeep_emptyToken : ¬ NestedTooDeep emptyToken := by
  intro hdeep
  have hread : ParsedToken.ofText emptyToken = .ok _ := ofText_emptyToken
  rw [ParsedToken.ofText_fault_iff.2 ⟨rfl, hdeep⟩] at hread
  exact absurd hread (by simp)

/-- A token with an empty header, and a payload of opened arrays. -/
def deepToken (n : Nat) : String :=
  Compact.write (Text.asciiBytes emptyObject) (Text.asciiBytes (Json.openArrays n)) []

theorem deepToken_ne_empty (n : Nat) : deepToken n ≠ "" := by
  intro h
  have three : segmentCount (deepToken n) = 3 := Compact.segmentCount_write _ _ _
  rw [h] at three
  exact absurd three (by decide)

/-- The payload may be nested as deep as one likes. -/
theorem nestedTooDeep_deepToken {n : Nat} (h : Json.maxDepth < n) : NestedTooDeep (deepToken n) :=
  .payload _ (Compact.segmentCount_write _ _ _) (Compact.ofText_write membersOf_emptyObject _ _)
    (Json.readBytes_openArrays h)

end RelyingParty
