import RelyingParty.Proofs.Text.Utf8
import RelyingParty.Proofs.Url.Joining

set_option autoImplicit false

/-! # Queries are read back

Written names and values are made of plain characters, among which there is no separator and nothing
that a URL drops. That is why fields come apart again where they were joined, and why a written
query is the query of any URL it is put into. Each byte is read back from its one or three
characters, and so each list of fields from its text: `decode_encode`. -/

namespace RelyingParty.Query

open Url (IsKept cut?_append)

/-! ## Written characters -/

/-- A character that neither separates fields nor ends a query, and is not dropped. -/
def IsPlain (c : Char) : Prop := c.toNat < 0x80 ∧ c ≠ '&' ∧ c ≠ '=' ∧ c ≠ '#' ∧ IsKept c

instance : DecidablePred IsPlain := fun _ => inferInstanceAs (Decidable (_ ∧ _))

/-- A digit as it is written. -/
def upperDigit (n : Nat) : Char := (Text.hexDigit n).toUpper

theorem isPlain_upperDigit : ∀ n < 16, IsPlain (upperDigit n) := by decide

theorem hexValue?_upperDigit : ∀ n < 16, Json.hexValue? (upperDigit n) = some n := by decide

theorem upperDigit_ne_plus : ∀ n < 16, upperDigit n ≠ '+' := by decide

theorem upperDigits_eq (n : Nat) :
    (Text.hexDigits 2 n).map Char.toUpper = [upperDigit (n / 16 % 16), upperDigit (n % 16)] := rfl

/-- An unreserved byte is written as a character that stands for nothing else. -/
theorem isPlain_of_unreserved {b : UInt8} (h : isUnreserved b = true) :
    IsPlain (Char.ofNat b.toNat) ∧ Char.ofNat b.toNat ≠ '+' ∧ Char.ofNat b.toNat ≠ '%'
      ∧ (Char.ofNat b.toNat).toNat = b.toNat := by
  obtain ⟨hlt, hchar⟩ := (Bool.and_eq_true _ _ ▸ h :)
  have hascii : b.toNat < 0x80 := UInt8.lt_iff_toNat_lt.1 (of_decide_eq_true hlt)
  have hnat : (Char.ofNat b.toNat).toNat = b.toNat := Text.toNat_charOfNat (by omega)
  have hchar_lt : (Char.ofNat b.toNat).toNat < 0x80 := hnat.symm ▸ hascii
  have hne (d : Char)
      (hd : (d.isAlphanum || d == '_' || d == '.' || d == '-' || d == '~') = false) :
      Char.ofNat b.toNat ≠ d := by
    intro heq
    rw [heq] at hchar
    exact absurd (hchar.symm.trans hd) (by decide)
  refine ⟨⟨hchar_lt, hne _ rfl, hne _ rfl, hne _ rfl, hne _ rfl, hne _ rfl, hne _ rfl⟩,
    hne _ rfl, hne _ rfl, hnat⟩

theorem isPlain_of_mem_encodeByte {b : UInt8} {c : Char} (h : c ∈ encodeByte b) : IsPlain c := by
  unfold encodeByte at h
  split at h
  · next hb =>
    rw [List.mem_singleton.1 h]
    exact (isPlain_of_unreserved hb).1
  · split at h
    · rw [List.mem_singleton.1 h]
      decide
    · rw [upperDigits_eq] at h
      simp only [List.mem_cons, List.not_mem_nil, or_false] at h
      rcases h with rfl | rfl | rfl
      · decide
      · exact isPlain_upperDigit _ (Nat.mod_lt _ (by decide))
      · exact isPlain_upperDigit _ (Nat.mod_lt _ (by decide))

theorem isPlain_of_mem_encodeBytes {bytes : Bytes} {c : Char} (h : c ∈ encodeBytes bytes) :
    IsPlain c := by
  obtain ⟨b, -, hb⟩ := List.mem_flatMap.1 h
  exact isPlain_of_mem_encodeByte hb

/-- The characters of a field are plain, except for the one between name and value. -/
theorem isPlain_of_mem_written {name value : Bytes} {c : Char}
    (h : c ∈ encodeBytes name ++ '=' :: encodeBytes value) : c = '=' ∨ IsPlain c := by
  rcases List.mem_append.1 h with h | h
  · exact Or.inr (isPlain_of_mem_encodeBytes h)
  · rcases List.mem_cons.1 h with h | h
    · exact Or.inl h
    · exact Or.inr (isPlain_of_mem_encodeBytes h)

/-- A written query neither ends nor loses a character in a URL. -/
theorem isKept_of_mem_encodeWith {fields : List (String × String)} {name value : Bytes} {c : Char}
    (h : c ∈ (encodeWith fields name value).toList) : c ≠ '#' ∧ IsKept c := by
  rw [encodeWith, String.toList_ofList] at h
  have hseparator (d : Char) (hd : d = '=' ∨ IsPlain d) : d ≠ '#' ∧ IsKept d := by
    rcases hd with rfl | hd
    · decide
    · exact hd.2.2.2
  rcases mem_separated h with rfl | ⟨part, hpart, hc⟩
  · decide
  · rcases List.mem_append.1 hpart with hfield | hlast
    · obtain ⟨field, -, rfl⟩ := List.mem_map.1 hfield
      exact hseparator c (isPlain_of_mem_written hc)
    · rw [List.mem_singleton.1 hlast] at hc
      exact hseparator c (isPlain_of_mem_written hc)

/-! ## Bytes -/

/-- A component with its spaces. -/
def spaced (cs : List Char) : List Char := cs.map fun c => if c = '+' then ' ' else c

theorem percentDecode_of_ne {b : UInt8} (h : b ≠ 0x25) (rest : Bytes) :
    percentDecode (b :: rest) = b :: percentDecode rest := by
  rw [percentDecode]
  intro a c more hb
  exact absurd hb h

/-- A percent sign and two digits stand for a byte. -/
theorem percentDecode_digits (b : UInt8) (rest : Bytes) :
    percentDecode (0x25 :: UInt8.ofNat (upperDigit (b.toNat / 16 % 16)).toNat
        :: UInt8.ofNat (upperDigit (b.toNat % 16)).toNat :: rest) = b :: percentDecode rest := by
  have hchar : ∀ n < 16, Char.ofNat (UInt8.ofNat (upperDigit n).toNat).toNat = upperDigit n := by
    intro n hn
    rw [Text.toNat_ofNat_of_ascii (isPlain_upperDigit n hn).1, Char.ofNat_toNat]
  have hhigh : b.toNat / 16 % 16 < 16 := Nat.mod_lt _ (by decide)
  have hlow : b.toNat % 16 < 16 := Nat.mod_lt _ (by decide)
  have hvalue : 16 * (b.toNat / 16 % 16) + b.toNat % 16 = b.toNat := by
    have hlt : b.toNat < 256 := b.toNat_lt
    omega
  rw [percentDecode, hchar _ hhigh, hchar _ hlow, hexValue?_upperDigit _ hhigh,
    hexValue?_upperDigit _ hlow]
  simp only [hvalue, UInt8.ofNat_toNat]

/-- A byte is read back from its characters. -/
theorem percentDecode_encodeByte (b : UInt8) (rest : Bytes) :
    percentDecode (Text.asciiBytes (spaced (encodeByte b)) ++ rest) = b :: percentDecode rest := by
  unfold encodeByte
  split
  · next hb =>
    obtain ⟨-, hplus, hpercent, hnat⟩ := isPlain_of_unreserved hb
    have hbyte : UInt8.ofNat (Char.ofNat b.toNat).toNat = b := by rw [hnat, UInt8.ofNat_toNat]
    have hne : b ≠ 0x25 := by
      intro heq
      rw [heq] at hpercent
      exact absurd rfl hpercent
    rw [spaced, List.map_singleton, if_neg hplus, Text.asciiBytes, List.map_singleton, hbyte,
      List.singleton_append, percentDecode_of_ne hne]
  · split
    · next hb =>
      rw [hb]
      exact percentDecode_of_ne (by decide) rest
    · have hhigh : upperDigit (b.toNat / 16 % 16) ≠ '+' :=
        upperDigit_ne_plus _ (Nat.mod_lt _ (by decide))
      have hlow : upperDigit (b.toNat % 16) ≠ '+' := upperDigit_ne_plus _ (Nat.mod_lt _ (by decide))
      have hspaced : spaced ['%', upperDigit (b.toNat / 16 % 16), upperDigit (b.toNat % 16)]
          = ['%', upperDigit (b.toNat / 16 % 16), upperDigit (b.toNat % 16)] := by
        simp [spaced, hhigh, hlow]
      rw [upperDigits_eq, hspaced]
      exact percentDecode_digits b rest

theorem percentDecode_encodeBytes (bytes : Bytes) :
    percentDecode (Text.asciiBytes (spaced (encodeBytes bytes))) = bytes := by
  induction bytes with
  | nil => rfl
  | cons b rest ih =>
    have happend : Text.asciiBytes (spaced (encodeBytes (b :: rest)))
        = Text.asciiBytes (spaced (encodeByte b))
          ++ Text.asciiBytes (spaced (encodeBytes rest)) := by
      simp [encodeBytes, spaced, Text.asciiBytes]
    rw [happend, percentDecode_encodeByte, ih]

/-! ## Names and values -/

/-- A name or a value is read back. -/
theorem decodeComponent_encodeComponent (s : String) :
    decodeComponent (encodeComponent s) = s := by
  have hascii : Text.IsAscii (spaced (encodeComponent s)) := by
    intro c hc
    obtain ⟨d, hd, rfl⟩ := List.mem_map.1 hc
    split
    · decide
    · exact (isPlain_of_mem_encodeBytes hd).1
  show Text.ofUtf8Lenient (percentDecode (Text.utf8 (String.ofList (spaced (encodeComponent s)))))
    = s
  rw [Text.utf8_ofList_of_ascii hascii, encodeComponent, percentDecode_encodeBytes,
    Text.ofUtf8Lenient_utf8]

theorem decodeField_encodeField (field : String × String) :
    decodeField (encodeField field) = field := by
  have hfree : '=' ∉ encodeComponent field.1 :=
    fun hmem => (isPlain_of_mem_encodeBytes hmem).2.2.1 rfl
  rw [decodeField, encodeField, cut?_append hfree]
  exact Prod.ext (decodeComponent_encodeComponent _) (decodeComponent_encodeComponent _)

/-! ## Queries -/

/-- **The fields of a written query are those it was written from**, each of them, in order. -/
theorem decode_encode (fields : List (String × String)) : decode (encode fields) = fields := by
  have hparts : ∀ part ∈ fields.map encodeField, '&' ∉ part ∧ part.isEmpty = false := by
    intro part hpart
    obtain ⟨field, -, rfl⟩ := List.mem_map.1 hpart
    refine ⟨fun hmem => ?_, ?_⟩
    · rcases isPlain_of_mem_written hmem with hequals | hplain
      · exact absurd hequals (by decide)
      · exact hplain.2.1 rfl
    · simp [encodeField]
  have hnonempty : (fields.map encodeField).filter (!·.isEmpty) = fields.map encodeField := by
    rw [List.filter_eq_self]
    intro part hpart
    rw [(hparts part hpart).2, Bool.not_false]
  have hread : (fields.map encodeField).map decodeField = fields := by
    rw [List.map_map]
    refine (List.map_congr_left fun field _ => ?_).trans (List.map_id fields)
    exact decodeField_encodeField field
  rw [decode, encode, String.toList_ofList,
    splitOn_separated fun part hpart => (hparts part hpart).1]
  split
  · next hnil =>
    obtain rfl : fields = [] := List.map_eq_nil_iff.1 hnil
    rfl
  · rw [hnonempty, hread]

/-- A written query is its own bytes. -/
theorem isAscii_encode (fields : List (String × String)) :
    Text.IsAscii (separated '&' (fields.map encodeField)) := by
  intro c hc
  rcases mem_separated hc with rfl | ⟨part, hpart, hmem⟩
  · decide
  · obtain ⟨field, -, rfl⟩ := List.mem_map.1 hpart
    rcases isPlain_of_mem_written hmem with rfl | hplain
    · decide
    · exact hplain.1

theorem decode_ofLatin1_encode (fields : List (String × String)) :
    decode (Text.ofLatin1 (Text.utf8 (encode fields))) = fields := by
  have hascii := isAscii_encode fields
  rw [encode, Text.utf8_ofList_of_ascii hascii, Text.ofLatin1_asciiBytes hascii]
  exact decode_encode fields

end RelyingParty.Query
