import RelyingParty.Proofs.Text.Encoding

set_option autoImplicit false

/-! # UTF-8 is read back

The bytes of a character are read back as that character, whatever follows them, and so every text
is read back from its UTF-8 by each of the readers: `ofUtf8?_utf8`, `ofUtf8Lenient_utf8`,
`utf8Points?_utf8`. There is a lemma for each number of bytes, in which the leading byte is known by
its range and the others by the bits that they hold. -/

namespace RelyingParty.Text

/-! ## Bytes by their numbers -/

variable {n v : Nat}

theorem ofNat_lt_iff (h : n < 256) (bound : UInt8) : UInt8.ofNat n < bound ↔ n < bound.toNat := by
  rw [UInt8.lt_iff_toNat_lt, UInt8.toNat_ofNat_of_lt' h]

theorem le_ofNat_iff (h : n < 256) (bound : UInt8) : bound ≤ UInt8.ofNat n ↔ bound.toNat ≤ n := by
  rw [UInt8.le_iff_toNat_le, UInt8.toNat_ofNat_of_lt' h]

theorem ofNat_le_iff (h : n < 256) (bound : UInt8) : UInt8.ofNat n ≤ bound ↔ n ≤ bound.toNat := by
  rw [UInt8.le_iff_toNat_le, UInt8.toNat_ofNat_of_lt' h]

theorem ofNat_eq_iff (h : n < 256) (b : UInt8) : UInt8.ofNat n = b ↔ n = b.toNat := by
  rw [← UInt8.toNat_inj, UInt8.toNat_ofNat_of_lt' h]

/-! ## The bytes after the first -/

theorem isContinuation_ofNat (h : n < 64) : isContinuation (UInt8.ofNat (n + 128)) = true := by
  have hle : (0x80 : UInt8) ≤ UInt8.ofNat (n + 128) := by
    rw [le_ofNat_iff (by omega)]
    show 128 ≤ n + 128
    omega
  have hge : UInt8.ofNat (n + 128) ≤ 0xBF := by
    rw [ofNat_le_iff (by omega)]
    show n + 128 ≤ 191
    omega
  simp only [isContinuation, hle, hge, decide_true, Bool.and_self]

theorem payloadBits_ofNat (h : n < 64) : payloadBits (UInt8.ofNat (n + 128)) = n := by
  have hlt : n + 128 < 256 := by omega
  rw [payloadBits, UInt8.toNat_ofNat_of_lt' hlt]
  omega

/-- What may follow a leading byte depends on it at the borders of what can be written. -/
theorem isSecond_ofNat {lead : Nat} (hlead : lead < 256) (h : n < 64)
    (hshort : lead = 0xE0 → 0x20 ≤ n) (hsurrogate : lead = 0xED → n < 0x20)
    (hshort' : lead = 0xF0 → 0x10 ≤ n) (hlarge : lead = 0xF4 → n < 0x10) :
    isSecond (UInt8.ofNat lead) (UInt8.ofNat (n + 128)) = true := by
  have hlt : n + 128 < 256 := by omega
  unfold isSecond
  simp only [ofNat_eq_iff hlead]
  split
  · next he0 =>
    have hn := hshort he0
    simp only [le_ofNat_iff hlt, ofNat_le_iff hlt, Bool.and_eq_true, decide_eq_true_eq]
    show 160 ≤ n + 128 ∧ n + 128 ≤ 191
    omega
  · split
    · next hed =>
      have hn := hsurrogate hed
      simp only [le_ofNat_iff hlt, ofNat_le_iff hlt, Bool.and_eq_true, decide_eq_true_eq]
      show 128 ≤ n + 128 ∧ n + 128 ≤ 159
      omega
    · split
      · next hf0 =>
        have hn := hshort' hf0
        simp only [le_ofNat_iff hlt, ofNat_le_iff hlt, Bool.and_eq_true, decide_eq_true_eq]
        show 144 ≤ n + 128 ∧ n + 128 ≤ 191
        omega
      · split
        · next hf4 =>
          have hn := hlarge hf4
          simp only [le_ofNat_iff hlt, ofNat_le_iff hlt, Bool.and_eq_true, decide_eq_true_eq]
          show 128 ≤ n + 128 ∧ n + 128 ≤ 143
          omega
        · exact isContinuation_ofNat h

/-! ## One character -/

/-- Two bytes. -/
theorem utf8Step_two (hlow : 0x80 ≤ v) (hhigh : v < 0x800) (rest : Bytes) :
    utf8Step (UInt8.ofNat (v / 64 % 32 + 192)) (UInt8.ofNat (v % 64 + 128) :: rest)
      = (some (Char.ofNat v), rest) := by
  have hlead : v / 64 % 32 + 192 < 256 := by omega
  have hvalue : (v / 64 % 32 + 192 - 0xC0) * 64 + v % 64 = v := by omega
  unfold utf8Step
  simp only [ofNat_lt_iff hlead]
  rw [if_neg (by show ¬ _ < 128; omega), if_neg (by show ¬ _ < 194; omega),
    if_pos (by show _ < 224; omega), if_pos (isContinuation_ofNat (by omega)),
    payloadBits_ofNat (by omega), UInt8.toNat_ofNat_of_lt' hlead, hvalue]

/-- Three bytes; the code points of surrogates are no characters. -/
theorem utf8Step_three (hlow : 0x800 ≤ v) (hhigh : v < 0x10000) (hvalid : v.isValidChar)
    (rest : Bytes) :
    utf8Step (UInt8.ofNat (v / 4096 % 16 + 224))
        (UInt8.ofNat (v / 64 % 64 + 128) :: UInt8.ofNat (v % 64 + 128) :: rest)
      = (some (Char.ofNat v), rest) := by
  have hlead : v / 4096 % 16 + 224 < 256 := by omega
  have hvalue : (v / 4096 % 16 + 224 - 0xE0) * 4096 + v / 64 % 64 * 64 + v % 64 = v := by omega
  have hsecond : isSecond (UInt8.ofNat (v / 4096 % 16 + 224)) (UInt8.ofNat (v / 64 % 64 + 128))
      = true := by
    unfold Nat.isValidChar at hvalid
    refine isSecond_ofNat hlead (by omega) ?_ ?_ ?_ ?_ <;> omega
  unfold utf8Step
  simp only [ofNat_lt_iff hlead]
  rw [if_neg (by show ¬ _ < 128; omega), if_neg (by show ¬ _ < 194; omega),
    if_neg (by show ¬ _ < 224; omega), if_pos (by show _ < 240; omega), if_pos hsecond,
    if_pos (isContinuation_ofNat (by omega)), payloadBits_ofNat (by omega),
    payloadBits_ofNat (by omega), UInt8.toNat_ofNat_of_lt' hlead, hvalue]

/-- Four bytes. -/
theorem utf8Step_four (hlow : 0x10000 ≤ v) (hhigh : v < 0x110000) (rest : Bytes) :
    utf8Step (UInt8.ofNat (v / 262144 % 8 + 240))
        (UInt8.ofNat (v / 4096 % 64 + 128) :: UInt8.ofNat (v / 64 % 64 + 128)
          :: UInt8.ofNat (v % 64 + 128) :: rest)
      = (some (Char.ofNat v), rest) := by
  have hlead : v / 262144 % 8 + 240 < 256 := by omega
  have hvalue : (v / 262144 % 8 + 240 - 0xF0) * 262144 + v / 4096 % 64 * 4096 + v / 64 % 64 * 64
      + v % 64 = v := by omega
  have hsecond : isSecond (UInt8.ofNat (v / 262144 % 8 + 240))
      (UInt8.ofNat (v / 4096 % 64 + 128)) = true := by
    refine isSecond_ofNat hlead (by omega) ?_ ?_ ?_ ?_ <;> omega
  unfold utf8Step
  simp only [ofNat_lt_iff hlead]
  rw [if_neg (by show ¬ _ < 128; omega), if_neg (by show ¬ _ < 194; omega),
    if_neg (by show ¬ _ < 224; omega), if_neg (by show ¬ _ < 240; omega),
    if_pos (by show _ < 245; omega), if_pos hsecond, if_pos (isContinuation_ofNat (by omega)),
    if_pos (isContinuation_ofNat (by omega)), payloadBits_ofNat (by omega),
    payloadBits_ofNat (by omega), payloadBits_ofNat (by omega), UInt8.toNat_ofNat_of_lt' hlead,
    hvalue]

/-- The bytes of a character are taken in one step, whatever follows them. -/
theorem exists_utf8Step_utf8EncodeChar (c : Char) (rest : Bytes) :
    ∃ lead tail, String.utf8EncodeChar c ++ rest = lead :: tail
      ∧ utf8Step lead tail = (some c, rest) := by
  have hvalid : c.val.toNat.isValidChar := c.valid
  have hc : Char.ofNat c.val.toNat = c := Char.ofNat_toNat c
  have hlt : c.val.toNat < 0x110000 := by
    unfold Nat.isValidChar at hvalid
    omega
  by_cases hone : c.val.toNat ≤ 127
  · have hascii : c.toNat < 0x80 := Nat.lt_succ_of_le hone
    rw [utf8EncodeChar_of_ascii hascii, List.singleton_append]
    exact ⟨_, _, rfl, utf8Step_of_ascii hascii rest⟩
  · rw [String.utf8EncodeChar, if_neg hone]
    by_cases htwo : c.val.toNat ≤ 2047
    · rw [if_pos htwo, List.cons_append, List.singleton_append]
      exact ⟨_, _, rfl, by rw [utf8Step_two (by omega) (by omega), hc]⟩
    · rw [if_neg htwo]
      by_cases hthree : c.val.toNat ≤ 65535
      · rw [if_pos hthree, List.cons_append, List.cons_append, List.singleton_append]
        exact ⟨_, _, rfl, by rw [utf8Step_three (by omega) (by omega) hvalid, hc]⟩
      · rw [if_neg hthree, List.cons_append, List.cons_append, List.cons_append,
          List.singleton_append]
        exact ⟨_, _, rfl, by rw [utf8Step_four (by omega) hlt, hc]⟩

/-- The bytes of a character are one unit. -/
theorem utf8Units_utf8EncodeChar (c : Char) (rest : Bytes) :
    utf8Units (String.utf8EncodeChar c ++ rest) = some c :: utf8Units rest := by
  obtain ⟨lead, tail, hbytes, hstep⟩ := exists_utf8Step_utf8EncodeChar c rest
  rw [hbytes, utf8Units, hstep]

/-- What has the form of a surrogate is no character. -/
theorem utf8Step_of_surrogate? {lead : UInt8} {rest after : Bytes} {n : Nat}
    (h : surrogate? (lead :: rest) = some (n, after)) : (utf8Step lead rest).1 = none := by
  unfold surrogate? at h
  split at h
  · next b c tail hbytes =>
    obtain ⟨rfl, rfl⟩ := List.cons.inj hbytes
    split at h
    · next hform =>
      have hlow : (0xA0 : UInt8) ≤ b := by
        simp only [Bool.and_eq_true, decide_eq_true_eq] at hform
        exact hform.1.1
      have hsecond : ¬ b ≤ 0x9F := by
        rw [UInt8.le_iff_toNat_le] at hlow ⊢
        have hlow' : 160 ≤ b.toNat := hlow
        show ¬ b.toNat ≤ 159
        omega
      simp [utf8Step, isSecond, hsecond]
    · exact absurd h (by simp)
  · exact absurd h (by simp)

/-- The bytes of a character are one code point, also where surrogates may stand. -/
theorem utf8Points?_utf8EncodeChar (c : Char) (rest : Bytes) :
    utf8Points? (String.utf8EncodeChar c ++ rest) = (utf8Points? rest).map (c.toNat :: ·) := by
  obtain ⟨lead, tail, hbytes, hstep⟩ := exists_utf8Step_utf8EncodeChar c rest
  have hnone : surrogate? (lead :: tail) = none := by
    cases hsurrogate : surrogate? (lead :: tail) with
    | none => rfl
    | some found =>
      have hno : (utf8Step lead tail).1 = none := utf8Step_of_surrogate? hsurrogate
      rw [hstep] at hno
      exact absurd hno (by simp)
  rw [hbytes, utf8Points?]
  split
  · next hsome => exact absurd (hnone.symm.trans hsome) (by simp)
  · rw [hstep]

/-! ## Text -/

theorem utf8Units_utf8 (s : String) : utf8Units (utf8 s) = s.toList.map some := by
  have hunits : ∀ cs : List Char, utf8Units (cs.flatMap String.utf8EncodeChar) = cs.map some := by
    intro cs
    induction cs with
    | nil => rw [List.flatMap_nil, utf8Units, List.map_nil]
    | cons c cs ih => rw [List.flatMap_cons, utf8Units_utf8EncodeChar, ih, List.map_cons]
  exact hunits s.toList

theorem utf8Points?_utf8 (s : String) : utf8Points? (utf8 s) = some (s.toList.map Char.toNat) := by
  have hpoints : ∀ cs : List Char,
      utf8Points? (cs.flatMap String.utf8EncodeChar) = some (cs.map Char.toNat) := by
    intro cs
    induction cs with
    | nil => rw [List.flatMap_nil, utf8Points?, List.map_nil]
    | cons c cs ih =>
      rw [List.flatMap_cons, utf8Points?_utf8EncodeChar, ih, Option.map_some, List.map_cons]
  exact hpoints s.toList

/-- A text is read back from its UTF-8, and nothing of it is refused. -/
theorem ofUtf8?_utf8 (s : String) : ofUtf8? (utf8 s) = some s := by
  rw [ofUtf8?, utf8Units_utf8, allSome_map_some, Option.map_some, String.ofList_toList]

/-- A text is read back from its UTF-8. -/
theorem ofUtf8Lenient_utf8 (s : String) : ofUtf8Lenient (utf8 s) = s := by
  have hunits : (s.toList.map some).map (·.getD '\uFFFD') = s.toList := by
    rw [List.map_map]
    exact List.map_id _
  rw [ofUtf8Lenient, utf8Units_utf8, hunits, String.ofList_toList]

end RelyingParty.Text
