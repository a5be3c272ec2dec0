import RelyingParty.Text.Encoding

set_option autoImplicit false

/-! # ASCII text in every encoding

What is stored and sent is ASCII text, and such a text is read back from its bytes under each of the
encodings that profiles are stored in: `decode?_encode?_of_ascii`. The bytes of the narrow encodings
are the characters themselves, `asciiBytes`; UTF-16 puts a zero beside each of them. -/

namespace RelyingParty

namespace Text

/-! ## ASCII -/

/-- All characters are ASCII. -/
def IsAscii (cs : List Char) : Prop := ∀ c ∈ cs, c.toNat < 0x80

instance (cs : List Char) : Decidable (IsAscii cs) :=
  List.decidableBAll (fun c : Char => c.toNat < 0x80) cs

/-- One byte for each character. -/
def asciiBytes (cs : List Char) : Bytes := cs.map fun c => UInt8.ofNat c.toNat

theorem IsAscii.of_cons {c : Char} {cs : List Char} (h : IsAscii (c :: cs)) :
    c.toNat < 0x80 ∧ IsAscii cs :=
  ⟨h c (List.mem_cons_self ..), fun d hd => h d (List.mem_cons_of_mem _ hd)⟩

theorem isAscii_cons {c : Char} {cs : List Char} (hc : c.toNat < 0x80) (hcs : IsAscii cs) :
    IsAscii (c :: cs) :=
  List.forall_mem_cons.2 ⟨hc, hcs⟩

theorem isAscii_append {cs ds : List Char} (hc : IsAscii cs) (hd : IsAscii ds) :
    IsAscii (cs ++ ds) :=
  fun c h => (List.mem_append.1 h).elim (hc c) (hd c)

theorem isAscii_flatMap {α : Type} {f : α → List Char} {xs : List α}
    (h : ∀ x ∈ xs, IsAscii (f x)) : IsAscii (xs.flatMap f) := by
  intro c hc
  obtain ⟨x, hx, hcx⟩ := List.mem_flatMap.1 hc
  exact h x hx c hcx

/-- A code point below the surrogates is that of its character. -/
theorem toNat_charOfNat {n : Nat} (h : n < 0xD800) : (Char.ofNat n).toNat = n := by
  have hvalid : n.isValidChar := Or.inl h
  rw [Char.ofNat, dif_pos hvalid]
  rfl

theorem toNat_ofNat_of_ascii {c : Char} (h : c.toNat < 0x80) :
    (UInt8.ofNat c.toNat).toNat = c.toNat := by
  rw [UInt8.toNat_ofNat']
  omega

/-- The bytes of an ASCII text are ASCII. -/
theorem lt_of_mem_asciiBytes {cs : List Char} (h : IsAscii cs) {b : UInt8}
    (hb : b ∈ asciiBytes cs) : b < 0x80 := by
  obtain ⟨c, hc, rfl⟩ := List.mem_map.1 hb
  rw [UInt8.lt_iff_toNat_lt, toNat_ofNat_of_ascii (h c hc)]
  exact h c hc

/-! ## Narrow encodings -/

theorem utf8EncodeChar_of_ascii {c : Char} (h : c.toNat < 0x80) :
    String.utf8EncodeChar c = [UInt8.ofNat c.toNat] := by
  have hle : c.val.toNat ≤ 0x7f := by
    have hc : c.val.toNat = c.toNat := rfl
    omega
  rw [String.utf8EncodeChar, if_pos hle]
  rfl

/-- An ASCII text is its own UTF-8. -/
theorem utf8_ofList_of_ascii {cs : List Char} (h : IsAscii cs) :
    utf8 (String.ofList cs) = asciiBytes cs := by
  rw [utf8, String.toList_ofList]
  induction cs with
  | nil => rfl
  | cons c cs ih =>
    obtain ⟨hc, hcs⟩ := h.of_cons
    rw [List.flatMap_cons, utf8EncodeChar_of_ascii hc, ih hcs]
    rfl

/-- An ASCII character is one byte. -/
theorem utf8Step_of_ascii {c : Char} (h : c.toNat < 0x80) (rest : Bytes) :
    utf8Step (UInt8.ofNat c.toNat) rest = (some c, rest) := by
  have hlt : UInt8.ofNat c.toNat < 0x80 := by
    rw [UInt8.lt_iff_toNat_lt, toNat_ofNat_of_ascii h]
    exact h
  unfold utf8Step
  rw [if_pos hlt, toNat_ofNat_of_ascii h, Char.ofNat_toNat]

theorem utf8Units_asciiBytes {cs : List Char} (h : IsAscii cs) :
    utf8Units (asciiBytes cs) = cs.map some := by
  induction cs with
  | nil => rw [asciiBytes, List.map_nil, utf8Units, List.map_nil]
  | cons c cs ih =>
    obtain ⟨hc, hcs⟩ := h.of_cons
    rw [asciiBytes, List.map_cons, utf8Units, ← asciiBytes, utf8Step_of_ascii hc, ih hcs,
      List.map_cons]

theorem allSome_map_some {α : Type} (xs : List α) : allSome (xs.map some) = some xs := by
  induction xs with
  | nil => rfl
  | cons x xs ih => rw [List.map_cons, allSome, ih, Option.map_some]

theorem ofUtf8?_asciiBytes {cs : List Char} (h : IsAscii cs) :
    ofUtf8? (asciiBytes cs) = some (String.ofList cs) := by
  rw [ofUtf8?, utf8Units_asciiBytes h, allSome_map_some, Option.map_some]

theorem ofLatin1_asciiBytes {cs : List Char} (h : IsAscii cs) :
    ofLatin1 (asciiBytes cs) = String.ofList cs := by
  have hmap : (asciiBytes cs).map (fun b => Char.ofNat b.toNat) = cs := by
    rw [asciiBytes, List.map_map]
    refine (List.map_congr_left fun c hc => ?_).trans (List.map_id cs)
    show Char.ofNat (UInt8.ofNat c.toNat).toNat = c
    rw [toNat_ofNat_of_ascii (h c hc), Char.ofNat_toNat]
  rw [ofLatin1, hmap]

/-- ASCII bytes are the UTF-8 of the text they make. -/
theorem utf8_ofLatin1 {bytes : Bytes} (h : ∀ b ∈ bytes, b < 0x80) :
    utf8 (ofLatin1 bytes) = bytes := by
  have hchar : ∀ b ∈ bytes, (Char.ofNat b.toNat).toNat = b.toNat := by
    intro b hb
    have hlt : b.toNat < 0x80 := UInt8.lt_iff_toNat_lt.1 (h b hb)
    exact toNat_charOfNat (by omega)
  have hascii : IsAscii (bytes.map fun b => Char.ofNat b.toNat) := by
    intro c hc
    obtain ⟨b, hb, rfl⟩ := List.mem_map.1 hc
    rw [hchar b hb]
    exact UInt8.lt_iff_toNat_lt.1 (h b hb)
  rw [ofLatin1, utf8_ofList_of_ascii hascii, asciiBytes, List.map_map]
  refine (List.map_congr_left fun b hb => ?_).trans (List.map_id bytes)
  show UInt8.ofNat (Char.ofNat b.toNat).toNat = b
  rw [hchar b hb, UInt8.ofNat_toNat]

theorem ofAscii?_asciiBytes {cs : List Char} (h : IsAscii cs) :
    ofAscii? (asciiBytes cs) = some (String.ofList cs) := by
  have hall : (asciiBytes cs).all (· < 0x80) = true := by
    rw [List.all_eq_true]
    intro b hb
    exact decide_eq_true (lt_of_mem_asciiBytes h hb)
  rw [ofAscii?, if_pos hall, ofLatin1_asciiBytes h]

theorem bytesBelow?_of_ascii {limit : Nat} (hlimit : 0x80 ≤ limit) {cs : List Char}
    (h : IsAscii cs) : bytesBelow? limit (String.ofList cs) = some (asciiBytes cs) := by
  have hall : cs.all (·.toNat < limit) = true := by
    rw [List.all_eq_true]
    intro c hc
    have hlt := h c hc
    exact decide_eq_true (by omega)
  rw [bytesBelow?, String.toList_ofList, if_pos hall, asciiBytes]

/-! ## Code points -/

/-- A character is the one of its code point. -/
theorem codePoint?_toNat (c : Char) : codePoint? c.toNat = some c := by
  have hvalid : c.toNat < 0xD800 ∨ 0xDFFF < c.toNat ∧ c.toNat < 0x110000 := c.valid
  rw [codePoint?, if_pos hvalid, Char.ofNat_toNat]

theorem codePoint?_eq_some {n : Nat} {c : Char} (h : codePoint? n = some c) :
    c.toNat = n := by
  unfold codePoint? at h
  split at h
  · next hvalid =>
    rw [← Option.some.inj h, Char.ofNat, dif_pos hvalid]
    rfl
  · exact absurd h (by simp)

/-- A code point that is no character is a half of a pair, with a unit of its own. -/
theorem lt_of_codePoint?_eq_none {n : Nat} (h : codePoint? n = none)
    (hn : n < 0x110000) : n < 0x10000 := by
  unfold codePoint? at h
  split at h
  · exact absurd h (by simp)
  · next hvalid =>
    have hpoint : ¬ (n < 0xD800 ∨ 0xDFFF < n ∧ n < 0x110000) := hvalid
    omega

theorem ofPoints?_map_toNat (cs : List Char) :
    ofPoints? (cs.map Char.toNat) = some (String.ofList cs) := by
  have hpoints : (cs.map Char.toNat).map codePoint? = cs.map some := by
    rw [List.map_map]
    exact List.map_congr_left fun c _ => codePoint?_toNat c
  rw [ofPoints?, hpoints, allSome_map_some, Option.map_some]

/-- Without a first half there is nothing to be joined. -/
theorem joinSurrogates_eq_self {points : List Nat} (h : ∀ n ∈ points, isHighSurrogate n = false) :
    joinSurrogates points = points := by
  induction points using joinSurrogates.induct with
  | case1 => rfl
  | case2 n => rfl
  | case3 n m rest hpair ih =>
    rw [h n (List.mem_cons_self ..)] at hpair
    exact absurd hpair (by simp)
  | case4 n m rest hpair ih =>
    rw [joinSurrogates, if_neg hpair, ih fun k hk => h k (List.mem_cons_of_mem _ hk)]

/-! ## UTF-16 -/

/-- The two bytes of an ASCII character, in either order. -/
theorem join_split_of_ascii {n : Nat} (h : n < 0x80) (order : ByteOrder) :
    ∃ a b, order.split n = [a, b] ∧ order.join a.toNat b.toNat = n := by
  have hlow : (UInt8.ofNat (n % 256)).toNat = n := by
    rw [UInt8.toNat_ofNat']
    omega
  have hhigh : (UInt8.ofNat (n / 256 % 256)).toNat = 0 := by
    rw [UInt8.toNat_ofNat']
    omega
  cases order with
  | little =>
    refine ⟨_, _, rfl, ?_⟩
    rw [ByteOrder.join, hlow, hhigh]
    omega
  | big =>
    refine ⟨_, _, rfl, ?_⟩
    rw [ByteOrder.join, hlow, hhigh]
    omega

theorem pairs?_utf16_of_ascii (order : ByteOrder) {cs : List Char} (h : IsAscii cs) :
    pairs? order (utf16 order (String.ofList cs)) = some (cs.map Char.toNat) := by
  rw [utf16, String.toList_ofList]
  induction cs with
  | nil => rfl
  | cons c cs ih =>
    obtain ⟨hc, hcs⟩ := h.of_cons
    have hunits : utf16Units c = [c.toNat] := by rw [utf16Units, if_pos (by omega)]
    obtain ⟨a, b, hsplit, hjoin⟩ := join_split_of_ascii hc order
    rw [List.flatMap_cons, hunits, List.singleton_append, List.flatMap_cons, hsplit]
    show pairs? order (a :: b :: (cs.flatMap utf16Units).flatMap order.split) = _
    rw [pairs?, ih hcs, hjoin]
    rfl

theorem ofUtf16?_utf16_of_ascii (order : ByteOrder) {cs : List Char} (h : IsAscii cs) :
    ofUtf16? order (utf16 order (String.ofList cs)) = some (String.ofList cs) := by
  have hjoin : joinSurrogates (cs.map Char.toNat) = cs.map Char.toNat := by
    refine joinSurrogates_eq_self fun n hn => ?_
    obtain ⟨c, hc, rfl⟩ := List.mem_map.1 hn
    have hlt := h c hc
    simp only [isHighSurrogate, Bool.and_eq_false_iff, decide_eq_false_iff_not]
    omega
  rw [ofUtf16?, utf16Points?, pairs?_utf16_of_ascii order h, Option.map_some, hjoin,
    Option.bind_some, ofPoints?_map_toNat]

end Text

/-! ## The encodings of profiles -/

namespace Encoding

/-- The encodings profiles are stored in. -/
def ofProfiles : List Encoding := [.utf8, .ascii, .latin1, .utf16, .utf16Little, .utf8Signed]

/-- **An ASCII text is written in each of the encodings, and read back.** -/
theorem decode?_encode?_of_ascii {e : Encoding} (he : e ∈ ofProfiles) {cs : List Char}
    (h : Text.IsAscii cs) :
    ∃ bytes, e.encode? (String.ofList cs) = some bytes
      ∧ e.decode? bytes = some (String.ofList cs) := by
  simp only [ofProfiles, List.mem_cons, List.not_mem_nil, or_false] at he
  rcases he with rfl | rfl | rfl | rfl | rfl | rfl
  -- the marks that UTF-16 and signed UTF-8 write first are gone before anything is read
  · refine ⟨_, rfl, ?_⟩
    rw [Text.utf8_ofList_of_ascii h]
    exact Text.ofUtf8?_asciiBytes h
  · exact ⟨_, Text.bytesBelow?_of_ascii (by decide) h, Text.ofAscii?_asciiBytes h⟩
  · refine ⟨_, Text.bytesBelow?_of_ascii (by decide) h, ?_⟩
    exact congrArg some (Text.ofLatin1_asciiBytes h)
  · exact ⟨_, rfl, Text.ofUtf16?_utf16_of_ascii .little h⟩
  · exact ⟨_, rfl, Text.ofUtf16?_utf16_of_ascii .little h⟩
  · refine ⟨_, rfl, ?_⟩
    rw [Text.utf8_ofList_of_ascii h]
    exact Text.ofUtf8?_asciiBytes h

end Encoding

end RelyingParty
