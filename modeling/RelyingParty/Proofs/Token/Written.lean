import RelyingParty.Proofs.Json.Detection
import RelyingParty.Proofs.Token.Reading

set_option autoImplicit false

/-! # Tokens that were written are read

`writeSegments` makes a token of segments. With the text of an object as header, and as payload if
the token is signed, such a token is read as these objects, whatever the other segments are and
however the text is laid out: `ofText_signed`, `ofText_sealed`.

What is no token is refused. Besides a part that is nested too deep, only one thing ends the reading
without a verdict: broken text with the points of an encrypted token, which has no bytes.
`tokens_read_as_told` puts all of this together. -/

namespace RelyingParty

/-! ## Segments -/

theorem segments_eq_splitOn (bytes : Bytes) : segments bytes = bytes.splitOn segmentPoint := by
  induction bytes with
  | nil => rfl
  | cons b rest ih =>
    rw [segments, ih, List.splitOn, List.splitOn, List.splitOnP_cons_eq_if_modifyHead]
    by_cases hb : b = segmentPoint
    · rw [if_pos hb, if_pos (beq_iff_eq.2 hb)]
    · rw [if_neg hb, if_neg (mt beq_iff_eq.1 hb)]
      cases hrest : rest.splitOnP (· == segmentPoint) with
      | nil => exact absurd hrest (List.splitOnP_ne_nil _ _)
      | cons s ss => rfl

theorem length_segments (bytes : Bytes) :
    (segments bytes).length = bytes.count segmentPoint + 1 := by
  induction bytes with
  | nil => rfl
  | cons b rest ih =>
    rw [segments, List.count_cons]
    by_cases hb : b = segmentPoint
    · rw [if_pos hb, if_pos (beq_iff_eq.2 hb), List.length_cons, ih]
    · rw [if_neg hb, if_neg (mt beq_iff_eq.1 hb)]
      cases hrest : segments rest with
      | nil => exact absurd (hrest ▸ ih) (by simp)
      | cons s ss =>
        rw [hrest] at ih
        exact ih

/-- The points of a token are those of its bytes. -/
theorem segmentCount_ofLatin1 {bytes : Bytes} (h : ∀ b ∈ bytes, b < 0x80) :
    segmentCount (Text.ofLatin1 bytes) = (segments bytes).length := by
  have hpoint : ∀ b ∈ bytes, (Char.ofNat b.toNat == '.') = true ↔ (b == segmentPoint) = true := by
    intro b hb
    have hlt : b.toNat < 0x80 := UInt8.lt_iff_toNat_lt.1 (h b hb)
    rw [beq_iff_eq, beq_iff_eq]
    constructor
    · intro hchar
      have hnat : b.toNat = 46 := by
        rw [← Text.toNat_charOfNat (n := b.toNat) (by omega), hchar]
        rfl
      exact UInt8.toNat_inj.1 hnat
    · rintro rfl
      rfl
  rw [segmentCount, Text.ofLatin1, String.toList_ofList, length_segments, List.count_eq_countP,
    List.countP_map, List.count_eq_countP]
  exact congrArg (· + 1) (List.countP_congr hpoint)

/-! ## Writing -/

/-- A token made of segments. -/
def writeSegments (parts : List Bytes) : String :=
  Text.ofLatin1 ([segmentPoint].intercalate (parts.map Base64.encode))

/-- The bytes of a token are digits of base64 and points. -/
theorem lt_of_mem_intercalate {parts : List Bytes} {b : UInt8}
    (h : b ∈ [segmentPoint].intercalate (parts.map Base64.encode)) : b < 0x80 := by
  induction parts with
  | nil => exact absurd h (by simp)
  | cons part rest ih =>
    cases rest with
    | nil =>
      rw [List.map_cons, List.map_nil, List.intercalate_singleton] at h
      exact (Base64.mem_encode h).1
    | cons next rest =>
      rw [List.map_cons, List.map_cons, List.intercalate_cons_cons, List.mem_append,
        List.mem_append] at h
      rcases h with (h | h) | h
      · exact (Base64.mem_encode h).1
      · rw [List.mem_singleton.1 h]
        decide
      · exact ih h

theorem segments_writeSegments {parts : List Bytes} (hne : parts ≠ []) :
    segments (Text.utf8 (writeSegments parts)) = parts.map Base64.encode := by
  have hpoint : ∀ part ∈ parts.map Base64.encode, segmentPoint ∉ part := by
    intro part hpart hmem
    obtain ⟨bytes, -, rfl⟩ := List.mem_map.1 hpart
    exact ne_segmentPoint_of_mem_encode _ hmem rfl
  rw [writeSegments, Text.utf8_ofLatin1 fun b hb => lt_of_mem_intercalate hb, segments_eq_splitOn,
    List.splitOn_intercalate segmentPoint hpoint (mt List.map_eq_nil_iff.1 hne)]

theorem segmentCount_writeSegments {parts : List Bytes} (hne : parts ≠ []) :
    segmentCount (writeSegments parts) = parts.length := by
  have hsegments := segments_writeSegments hne
  rw [writeSegments, Text.utf8_ofLatin1 fun b hb => lt_of_mem_intercalate hb] at hsegments
  rw [writeSegments, segmentCount_ofLatin1 fun b hb => lt_of_mem_intercalate hb, hsegments,
    List.length_map]

/-- A signed token is made of three segments. -/
theorem write_eq_writeSegments (header payload signature : Bytes) :
    Compact.write header payload signature = writeSegments [header, payload, signature] := by
  rw [Compact.write, Compact.signedBytes, writeSegments]
  simp [List.intercalate]

/-! ## Encrypted tokens -/

theorem checkPart_encode (p : SealedPart) (bytes : Bytes) :
    checkPart p (Base64.encode bytes) = .ok () := by
  rw [checkPart, Base64.decode?_encode]
  rfl

/-- An encrypted token has the header it is made of, whatever its other segments are. -/
theorem sealedHeader_writeSegments {header : Bytes} {members : List (Value × Value)}
    (h : membersOf (Json.readDetected header) = .ok members)
    (key initialVector cipherText tag : Bytes) :
    sealedHeader (writeSegments [header, key, initialVector, cipherText, tag]) = .ok members := by
  rw [sealedHeader, segments_writeSegments (List.cons_ne_nil _ _)]
  simp only [List.map_cons, List.map_nil, Base64.decode?_encode, h, mapError_ok, ok_bind,
    checkPart_encode, pure_eq_ok]

namespace ParsedToken

/-- A token with five segments is read if it has a header. -/
theorem ofText_of_sealedHeader {token : String} {members : List (Value × Value)}
    (five : segmentCount token = 5) (h : sealedHeader token = .ok members) :
    ofText token = .ok ⟨token, members, [], true⟩ := by
  have hblank : Text.isBlankText token ≠ true := by
    intro hblank
    rw [segmentCount_of_isBlankText hblank] at five
    exact absurd five (by decide)
  rw [ofText, if_neg hblank, if_pos five, ofEncrypted, h]

end ParsedToken

/-! ## Objects -/

/-- A mapping that can be part of a token: an object of JSON without floating-point numbers, nested
    no deeper than is read. -/
structure IsObject (members : List (Value × Value)) : Prop where
  json : (Value.dict members).IsJson False
  depth : Json.NestedWithin Json.maxDepth (.dict members)

example : IsObject [(.text "alg", .text "none")] where
  json := by
    refine .dict ?_ (by simp [Entries.keys]) ?_
    · simpa using Value.isString_text "alg"
    · simpa using Value.IsJson.string (Value.isString_text "none")
  depth := by
    show Json.NestedWithin (984 + 1) _
    refine .dict ?_
    simpa using Json.NestedWithin.scalar (by simp) (by simp)

/-- The bytes of an object, in some layout. -/
def IsTextOf (bytes : Bytes) (members : List (Value × Value)) : Prop :=
  ∃ layout text, layout.IsPlain ∧ Json.write layout (.dict members) = .ok text
    ∧ bytes = Text.utf8 text

/-- Each object has a text in each layout. -/
theorem IsObject.exists_text {members : List (Value × Value)} (h : IsObject members)
    {layout : Json.Layout} (hlayout : layout.IsPlain) :
    ∃ text, Json.write layout (.dict members) = .ok text ∧ IsTextOf (Text.utf8 text) members := by
  obtain ⟨text, htext⟩ := (Json.exists_writeNested_iff h.json).2 h.depth
  exact ⟨text, htext, layout, text, hlayout, htext, rfl⟩

theorem IsObject.readBytes {members : List (Value × Value)} (h : IsObject members) {bytes : Bytes}
    (hbytes : IsTextOf bytes members) : membersOf (Json.readBytes .utf8 bytes) = .ok members := by
  obtain ⟨layout, text, hlayout, htext, rfl⟩ := hbytes
  exact membersOf_eq_ok_iff.2 (Json.readBytes_utf8_of_write hlayout h.json htext)

theorem IsObject.readDetected {members : List (Value × Value)} (h : IsObject members)
    {bytes : Bytes} (hbytes : IsTextOf bytes members) :
    membersOf (Json.readDetected bytes) = .ok members := by
  obtain ⟨layout, text, hlayout, htext, rfl⟩ := hbytes
  exact membersOf_eq_ok_iff.2 (Json.readDetected_of_write hlayout h.json htext)

namespace ParsedToken

/-- A signed token made of two objects is read as these. -/
theorem ofText_signed {header claims : List (Value × Value)} (hheader : IsObject header)
    (hclaims : IsObject claims) {h c : Bytes} (hh : IsTextOf h header) (hc : IsTextOf c claims)
    (signature : Bytes) :
    ofText (writeSegments [h, c, signature])
      = .ok ⟨writeSegments [h, c, signature], header, claims, false⟩ := by
  rw [← write_eq_writeSegments]
  exact ofText_write (hheader.readBytes hh) (hclaims.readBytes hc) signature

/-- An encrypted token with an object as its header is read as that, and no claims. -/
theorem ofText_sealed {header : List (Value × Value)} (hheader : IsObject header) {h : Bytes}
    (hh : IsTextOf h header) (key initialVector cipherText tag : Bytes) :
    ofText (writeSegments [h, key, initialVector, cipherText, tag])
      = .ok ⟨writeSegments [h, key, initialVector, cipherText, tag], header, [], true⟩ :=
  ofText_of_sealedHeader (segmentCount_writeSegments (List.cons_ne_nil _ _))
    (sealedHeader_writeSegments (hheader.readDetected hh) _ _ _ _)

/-! ## What is no token -/

/-- A value is no token: it is no text, or blank, or has the points of neither kind of token. -/
inductive IsNoToken : Value → Prop
  | kind {v : Value} (h : v.isText = false) : IsNoToken v
  | blank {token : String} (h : Text.isBlankText token = true) : IsNoToken (.text token)
  | count {token : String} (two : token.toList.count '.' ≠ 2) (four : token.toList.count '.' ≠ 4) :
    IsNoToken (.text token)
  | brokenCount {points : List Nat} (two : points.count segmentPoint.toNat ≠ 2)
    (four : points.count segmentPoint.toNat ≠ 4) : IsNoToken (.brokenText points)

theorem refused_of_isNoToken {v : Value} (h : IsNoToken v) :
    ∃ reason, ofValue v = .error (.refused reason) := by
  cases h with
  | kind hkind =>
    cases v with
    | text s => exact absurd hkind (by simp [Value.isText])
    | brokenText points => exact absurd hkind (by simp [Value.isText])
    | _ => exact ⟨.empty, rfl⟩
  | @blank token hblank =>
    refine ⟨.empty, ?_⟩
    rw [ofValue, ofText, if_pos hblank]
  | @count token two four =>
    have hfive : segmentCount token ≠ 5 := fun five => four (Nat.succ.inj five)
    have hthree : segmentCount token ≠ 3 := fun three => two (Nat.succ.inj three)
    rw [ofValue, ofText, if_neg hfive, if_neg hthree]
    split
    · exact ⟨_, rfl⟩
    · exact ⟨_, rfl⟩
  | @brokenCount points two four =>
    have hfive : points.count segmentPoint.toNat + 1 ≠ 5 := fun five => four (Nat.succ.inj five)
    have hthree : points.count segmentPoint.toNat + 1 ≠ 3 := fun three => two (Nat.succ.inj three)
    refine ⟨.segments (points.count segmentPoint.toNat + 1), ?_⟩
    rw [ofValue, ofBroken, if_neg hfive, if_neg hthree]

/-- Broken text with the points of an encrypted token. -/
def IsBrokenSealed (v : Value) : Prop :=
  ∃ points, v = .brokenText points ∧ points.count segmentPoint.toNat = 4

theorem ofBroken_fault_iff {points : List Nat} {cause : Fault} :
    ofBroken points = .error (.fault cause) ↔
      cause = .notEncodable ∧ points.count segmentPoint.toNat = 4 := by
  unfold ofBroken
  dsimp only
  split
  · next five => simp [Nat.succ.inj five, eq_comm]
  · next hfive =>
    have hfour : points.count segmentPoint.toNat ≠ 4 := fun four => hfive (by rw [four])
    split
    · simp [hfour]
    · simp [hfour]

/-- **The reading of a value breaks off** if a part of it is nested too deep, and if it is broken
    text with the points of an encrypted token. -/
theorem ofValue_fault_iff {v : Value} {cause : Fault} :
    ofValue v = .error (.fault cause) ↔
      (cause = .tooDeep ∧ ∃ token, v = .text token ∧ NestedTooDeep token)
        ∨ (cause = .notEncodable ∧ IsBrokenSealed v) := by
  cases v with
  | text token => simp [ofValue, ofText_fault_iff, IsBrokenSealed]
  | brokenText points => simp [ofValue, ofBroken_fault_iff, IsBrokenSealed]
  | _ => simp [ofValue, IsBrokenSealed]

/-- **Tokens are read as they were written**, what is no token is refused, and nothing else happens
    to a value than one of the two, unless a part of it is nested too deep or it is broken text with
    the points of an encrypted token. -/
theorem tokens_read_as_told (layout layout' : Json.Layout) (header claims : List (Value × Value))
    (v : Value) :
    (layout.IsPlain → layout'.IsPlain → IsObject header → IsObject claims →
        ∃ h c, Json.write layout (.dict header) = .ok h
          ∧ Json.write layout' (.dict claims) = .ok c
          ∧ ∀ signature,
            ofValue (.text (writeSegments [Text.utf8 h, Text.utf8 c, signature]))
              = .ok ⟨writeSegments [Text.utf8 h, Text.utf8 c, signature], header, claims, false⟩)
      ∧ (layout.IsPlain → IsObject header →
        ∃ h, Json.write layout (.dict header) = .ok h
          ∧ ∀ key vector cipher tag,
            ofValue (.text (writeSegments [Text.utf8 h, key, vector, cipher, tag]))
              = .ok ⟨writeSegments [Text.utf8 h, key, vector, cipher, tag], header, [], true⟩)
      ∧ (IsNoToken v → ∃ reason, ofValue v = .error (.refused reason))
      ∧ ((∀ cause, ofValue v = .error (.fault cause) →
          cause = .tooDeep ∧ ∃ token, v = .text token ∧ NestedTooDeep token) ↔
        ¬ IsBrokenSealed v) := by
  refine ⟨?_, ?_, refused_of_isNoToken, ?_⟩
  · intro hlayout hlayout' hheader hclaims
    obtain ⟨h, hh, htext⟩ := hheader.exists_text hlayout
    obtain ⟨c, hc, htext'⟩ := hclaims.exists_text hlayout'
    exact ⟨h, c, hh, hc, ofText_signed hheader hclaims htext htext'⟩
  · intro hlayout hheader
    obtain ⟨h, hh, htext⟩ := hheader.exists_text hlayout
    exact ⟨h, hh, ofText_sealed hheader htext⟩
  · constructor
    · intro honly hbroken
      have hfault : ofValue v = .error (.fault .notEncodable) :=
        ofValue_fault_iff.2 (Or.inr ⟨rfl, hbroken⟩)
      exact absurd (honly _ hfault).1 (by decide)
    · intro hnot cause hfault
      rcases ofValue_fault_iff.1 hfault with hdeep | ⟨-, hbroken⟩
      · exact hdeep
      · exact absurd hbroken hnot

/-- Half of a surrogate pair in a token with four points ends its reading without a verdict. -/
theorem fault_brokenToken :
    ∃ points cause, ofValue (.brokenText points) = .error (.fault cause) ∧ cause ≠ .tooDeep :=
  ⟨[0xD800, 46, 46, 46, 46], .notEncodable, rfl, by decide⟩

end ParsedToken

end RelyingParty
