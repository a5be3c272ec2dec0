import RelyingParty.Proofs.Steps
import RelyingParty.Proofs.Token.Base64
import RelyingParty.Token.Compact

set_option autoImplicit false

/-! # Signed tokens and their segments

A token `IsCut` at its first point and at its last one, and the parts that are read from it are
those that `StandIn` it: `Compact.ofBytes_eq_ok_iff`.

`Compact.write` makes a token of a header, a payload and a signature. Such a token comes apart into
what it was made of: `ofText_write`. The points are found because no digit of base64 is one. -/

namespace RelyingParty

/-! ## Points -/

/-- The first point is where it stands. -/
theorem splitFirstPoint?_append {before : Bytes} (h : ∀ b ∈ before, b ≠ segmentPoint)
    (after : Bytes) :
    splitFirstPoint? (before ++ segmentPoint :: after) = some (before, after) := by
  induction before with
  | nil => rw [List.nil_append, splitFirstPoint?, if_pos rfl]
  | cons b rest ih =>
    have hb : b ≠ segmentPoint := h b (List.mem_cons_self ..)
    have hrest : ∀ c ∈ rest, c ≠ segmentPoint := fun c hc => h c (List.mem_cons_of_mem _ hc)
    rw [List.cons_append, splitFirstPoint?, if_neg hb, ih hrest, Option.map_some]

/-- The last point is the first one from the end. -/
theorem splitLastPoint?_append (before : Bytes) {after : Bytes}
    (h : ∀ b ∈ after, b ≠ segmentPoint) :
    splitLastPoint? (before ++ segmentPoint :: after) = some (before, after) := by
  have hreverse : (before ++ segmentPoint :: after).reverse
      = after.reverse ++ segmentPoint :: before.reverse := by simp
  have hafter : ∀ b ∈ after.reverse, b ≠ segmentPoint := by
    intro b hb
    exact h b (List.mem_reverse.1 hb)
  rw [splitLastPoint?, hreverse, splitFirstPoint?_append hafter, Option.map_some]
  show some (before.reverse.reverse, after.reverse.reverse) = some (before, after)
  rw [List.reverse_reverse, List.reverse_reverse]

/-- The first point of some bytes parts them. -/
theorem splitFirstPoint?_eq_some_iff {bytes before after : Bytes} :
    splitFirstPoint? bytes = some (before, after) ↔
      bytes = before ++ segmentPoint :: after ∧ ∀ b ∈ before, b ≠ segmentPoint := by
  constructor
  · intro h
    induction bytes generalizing before with
    | nil => exact absurd h (by simp [splitFirstPoint?])
    | cons b rest ih =>
      rw [splitFirstPoint?] at h
      split at h
      · next hb =>
        obtain ⟨rfl, rfl⟩ := Prod.mk.inj (Option.some.inj h)
        exact ⟨by rw [hb, List.nil_append], by simp⟩
      · next hb =>
        obtain ⟨⟨before', after'⟩, hrest, heq⟩ := Option.map_eq_some_iff.1 h
        obtain ⟨rfl, rfl⟩ := Prod.mk.inj heq
        obtain ⟨rfl, hbefore⟩ := ih hrest
        exact ⟨rfl, List.forall_mem_cons.2 ⟨hb, hbefore⟩⟩
  · rintro ⟨rfl, h⟩
    exact splitFirstPoint?_append h after

/-- The last point of some bytes parts them. -/
theorem splitLastPoint?_eq_some_iff {bytes before after : Bytes} :
    splitLastPoint? bytes = some (before, after) ↔
      bytes = before ++ segmentPoint :: after ∧ ∀ b ∈ after, b ≠ segmentPoint := by
  constructor
  · intro h
    obtain ⟨⟨last, first⟩, hsplit, heq⟩ := Option.map_eq_some_iff.1 h
    obtain ⟨rfl, rfl⟩ := Prod.mk.inj heq
    obtain ⟨hbytes, hlast⟩ := splitFirstPoint?_eq_some_iff.1 hsplit
    refine ⟨?_, fun b hb => hlast b (List.mem_reverse.1 hb)⟩
    rw [← List.reverse_reverse bytes, hbytes]
    simp
  · rintro ⟨rfl, h⟩
    exact splitLastPoint?_append before h

/-! ## Reading -/

/-- A token is cut at its first point and at its last one. What is signed is all before the last
    point; the payload may have points in it. -/
structure IsCut (token header payload signature : Bytes) : Prop where
  token : token = (header ++ segmentPoint :: payload) ++ segmentPoint :: signature
  first : ∀ b ∈ header, b ≠ segmentPoint
  last : ∀ b ∈ signature, b ≠ segmentPoint

theorem isCut_iff {token header payload signature : Bytes} :
    IsCut token header payload signature ↔
      ∃ signed, splitLastPoint? token = some (signed, signature)
        ∧ splitFirstPoint? signed = some (header, payload) := by
  simp only [splitLastPoint?_eq_some_iff, splitFirstPoint?_eq_some_iff]
  constructor
  · intro h
    exact ⟨_, ⟨h.token, h.last⟩, rfl, h.first⟩
  · rintro ⟨_, ⟨htoken, hlast⟩, rfl, hfirst⟩
    exact ⟨htoken, hfirst, hlast⟩

/-- The members of a part are read exactly if it is an object. -/
theorem membersOf_eq_ok_iff {read : Except Json.ReadError Value} {members : List (Value × Value)} :
    membersOf read = .ok members ↔ read = .ok (.dict members) := by
  unfold membersOf
  split
  · simp
  · next v hne =>
    constructor
    · intro h
      exact absurd h (by simp)
    · intro h
      exact absurd (Except.ok.inj h) (hne members)
  · simp
  · simp

/-- A part that should be an object is nested too deep exactly if its text is. -/
theorem membersOf_tooDeep_iff {read : Except Json.ReadError Value} :
    membersOf read = .error .tooDeep ↔ read = .error .tooDeep := by
  unfold membersOf
  split
  · simp
  · simp
  · simp
  · next e hne =>
    constructor
    · intro h
      exact absurd h (by simp)
    · intro h
      exact absurd (Except.error.inj h) hne

namespace Compact

/-- The parts of a signed token stand in it, in base64. -/
structure StandIn (c : Compact) (token header payload signature : Bytes) : Prop where
  cut : IsCut token header payload signature
  signingInput : c.signingInput = header ++ segmentPoint :: payload
  header : ∃ bytes, Base64.decode? header = some bytes
    ∧ Json.readBytes .utf8 bytes = .ok (.dict c.header)
  payload : Base64.decode? payload = some c.payload
  signature : Base64.decode? signature = some c.signature

/-- A token comes apart into the parts that stand in it. -/
theorem ofBytes_eq_ok_iff {token : Bytes} {c : Compact} :
    ofBytes token = .ok c ↔
      ∃ header payload signature, c.StandIn token header payload signature := by
  unfold ofBytes
  constructor
  · intro h
    split at h
    · next signed signature hlast =>
      split at h
      · next header payload hfirst =>
        split at h
        · next bytes hbytes =>
          obtain ⟨members, hmembers, h⟩ := bind_eq_ok_iff.1 h
          split at h
          · next payloadBytes hpayload =>
            split at h
            · next signatureBytes hsignature =>
              obtain rfl := Except.ok.inj h
              have hread := membersOf_eq_ok_iff.1 (mapError_eq_ok_iff.1 hmembers)
              exact ⟨header, payload, signature, isCut_iff.2 ⟨signed, hlast, hfirst⟩,
                (splitFirstPoint?_eq_some_iff.1 hfirst).1, ⟨bytes, hbytes, hread⟩, hpayload,
                hsignature⟩
            · exact absurd h (by simp)
          · exact absurd h (by simp)
        · exact absurd h (by simp)
      · exact absurd h (by simp)
    · exact absurd h (by simp)
  · rintro ⟨header, payload, signature, hc⟩
    obtain ⟨signed, hlast, hfirst⟩ := isCut_iff.1 hc.cut
    obtain ⟨bytes, hbytes, hread⟩ := hc.header
    have hsigned : signed = c.signingInput := by
      rw [hc.signingInput]
      exact (splitFirstPoint?_eq_some_iff.1 hfirst).1
    simp only [hlast, hfirst, hbytes, membersOf_eq_ok_iff.2 hread, mapError_ok, ok_bind, hc.payload,
      hc.signature, pure_eq_ok]
    rw [hsigned]

/-- The header of a token is nested too deep exactly if it is base64 of such a text; the payload
    and the signature are not looked at then. -/
theorem ofBytes_tooDeep_iff {token : Bytes} :
    ofBytes token = .error (.header .tooDeep) ↔
      ∃ header payload signature bytes, IsCut token header payload signature
        ∧ Base64.decode? header = some bytes ∧ Json.readBytes .utf8 bytes = .error .tooDeep := by
  unfold ofBytes
  constructor
  · intro h
    split at h
    · next signed signature hlast =>
      split at h
      · next header payload hfirst =>
        split at h
        · next bytes hbytes =>
          refine ⟨header, payload, signature, bytes, isCut_iff.2 ⟨signed, hlast, hfirst⟩,
            hbytes, ?_⟩
          rcases bind_eq_error_iff.1 h with hmembers | ⟨members, -, h⟩
          · obtain ⟨e, hmembers, he⟩ := mapError_eq_error_iff.1 hmembers
            obtain rfl := CompactError.header.inj he
            exact membersOf_tooDeep_iff.1 hmembers
          · -- what comes after the header has errors of its own
            split at h
            · split at h
              · exact absurd h (by simp)
              · exact absurd h (by simp)
            · exact absurd h (by simp)
        · exact absurd h (by simp)
      · exact absurd h (by simp)
    · exact absurd h (by simp)
  · rintro ⟨header, payload, signature, bytes, hcut, hbytes, hdeep⟩
    obtain ⟨signed, hlast, hfirst⟩ := isCut_iff.1 hcut
    simp only [hlast, hfirst, hbytes, membersOf_tooDeep_iff.2 hdeep, mapError_error]
    rfl

end Compact

/-! ## Writing -/

theorem ne_segmentPoint_of_mem_encode {bytes : Bytes} :
    ∀ b ∈ Base64.encode bytes, b ≠ segmentPoint := fun _ hb => (Base64.mem_encode hb).2.2

/-! ## Tokens -/

namespace Compact

/-- The text that is signed: a header and a payload. -/
def signedBytes (header payload : Bytes) : Bytes :=
  Base64.encode header ++ segmentPoint :: Base64.encode payload

/-- A token made of a header, a payload and a signature. -/
def write (header payload signature : Bytes) : String :=
  Text.ofLatin1 (signedBytes header payload ++ segmentPoint :: Base64.encode signature)

theorem utf8_write (header payload signature : Bytes) :
    Text.utf8 (write header payload signature)
      = signedBytes header payload ++ segmentPoint :: Base64.encode signature := by
  refine Text.utf8_ofLatin1 fun b hb => ?_
  simp only [signedBytes, List.mem_append, List.mem_cons] at hb
  rcases hb with (hb | rfl | hb) | rfl | hb
  · exact (Base64.mem_encode hb).1
  · decide
  · exact (Base64.mem_encode hb).1
  · decide
  · exact (Base64.mem_encode hb).1

/-- **A token comes apart into what it is made of, if its header is an object.** -/
theorem ofText_write {header : Bytes} {members : List (Value × Value)}
    (h : membersOf (Json.readBytes .utf8 header) = .ok members) (payload signature : Bytes) :
    ofText (write header payload signature)
      = .ok ⟨members, payload, signedBytes header payload, signature⟩ := by
  rw [ofText, utf8_write, ofBytes, splitLastPoint?_append _ ne_segmentPoint_of_mem_encode]
  have hsplit : splitFirstPoint? (signedBytes header payload)
      = some (Base64.encode header, Base64.encode payload) :=
    splitFirstPoint?_append ne_segmentPoint_of_mem_encode _
  simp only [hsplit, Base64.decode?_encode, h]
  rfl

/-- A signed token has three segments. -/
theorem segmentCount_write (header payload signature : Bytes) :
    segmentCount (write header payload signature) = 3 := by
  have hcount : ∀ bytes : Bytes,
      ((Base64.encode bytes).map fun b => Char.ofNat b.toNat).count '.' = 0 := by
    intro bytes
    refine List.count_eq_zero.2 fun hmem => ?_
    obtain ⟨b, hb, hpoint⟩ := List.mem_map.1 hmem
    obtain ⟨hlt, -, hne⟩ := Base64.mem_encode hb
    have hnat : b.toNat = 46 := by
      have hlt' : b.toNat < 0x80 := UInt8.lt_iff_toNat_lt.1 hlt
      rw [← Text.toNat_charOfNat (n := b.toNat) (by omega), hpoint]
      rfl
    exact hne (UInt8.toNat_inj.1 hnat)
  have hsep : Char.ofNat segmentPoint.toNat = '.' := rfl
  rw [segmentCount, write, Text.ofLatin1, String.toList_ofList, signedBytes]
  simp only [List.map_append, List.map_cons, List.count_append, List.count_cons, hcount, hsep]
  rfl

end Compact

end RelyingParty
