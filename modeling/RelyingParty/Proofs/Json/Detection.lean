import RelyingParty.Proofs.Json.Nesting
import RelyingParty.Proofs.Text.Utf8

set_option autoImplicit false

/-! # The bytes of JSON

JSON that was written is read back from its UTF-8, whether the encoding is known or has to be found
out: it is found by the first two characters, neither of which is a zero or a mark. For an object
these are the bracket that opens it and what follows that: `readDetected_of_write`. -/

namespace RelyingParty.Json

/-! ## The encoding -/

/-- Two bytes of ASCII at the beginning tell UTF-8. -/
theorem detectPoints?_of_ascii {a b : UInt8} (ha : a ≠ 0) (hascii : a < 0x80) (hb : b ≠ 0)
    (rest : Bytes) : detectPoints? (a :: b :: rest) = Text.utf8Points? (a :: b :: rest) := by
  have hmark : ∀ {first : UInt8} {more : Bytes}, first ≠ a → ¬ first :: more <+: a :: b :: rest :=
    fun hne hprefix => hne (List.cons_prefix_cons.mp hprefix).1
  have hhigh : ∀ {first : UInt8}, ¬ first < 0x80 → first ≠ a := by
    rintro first hfirst rfl
    exact hfirst hascii
  unfold detectPoints?
  rw [if_neg (hmark ha.symm), if_neg (hmark (hhigh (by decide))),
    if_neg (hmark (hhigh (by decide))), if_neg (hmark (hhigh (by decide))),
    if_neg (hmark (hhigh (by decide)))]
  rcases rest with _ | ⟨c, _ | ⟨d, more⟩⟩
  · exact (if_neg ha).trans (if_neg hb)
  · rfl
  · exact (if_neg ha).trans (if_neg hb)

theorem ofPointsLenient_map_toNat (s : String) :
    Text.ofPointsLenient (s.toList.map Char.toNat) = s := by
  have hchars : (s.toList.map Char.toNat).map (fun n => (Text.codePoint? n).getD '\uFFFD')
      = s.toList := by
    rw [List.map_map]
    refine (List.map_congr_left fun c _ => ?_).trans (List.map_id _)
    show (Text.codePoint? c.toNat).getD '\uFFFD' = c
    rw [Text.codePoint?_toNat, Option.getD_some]
  rw [Text.ofPointsLenient, hchars, String.ofList_toList]

/-- A text that starts with two characters of ASCII is read from its UTF-8. -/
theorem readDetected_utf8 {text : String} {c d : Char} {rest : List Char}
    (htext : text.toList = c :: d :: rest) (hc : 0 < c.toNat ∧ c.toNat < 0x80)
    (hd : 0 < d.toNat ∧ d.toNat < 0x80) : readDetected (Text.utf8 text) = read text := by
  have hne : ∀ {ch : Char}, 0 < ch.toNat ∧ ch.toNat < 0x80 → UInt8.ofNat ch.toNat ≠ 0 := by
    intro ch hch
    rw [ne_eq, Text.ofNat_eq_iff (by omega)]
    exact Nat.ne_of_gt hch.1
  have hlt : UInt8.ofNat c.toNat < 0x80 := by
    rw [Text.ofNat_lt_iff (by omega)]
    exact hc.2
  have hbytes : Text.utf8 text = UInt8.ofNat c.toNat :: UInt8.ofNat d.toNat
      :: rest.flatMap String.utf8EncodeChar := by
    rw [Text.utf8, htext, List.flatMap_cons, List.flatMap_cons,
      Text.utf8EncodeChar_of_ascii hc.2, Text.utf8EncodeChar_of_ascii hd.2]
    rfl
  have hpoints : detectPoints? (Text.utf8 text) = some (text.toList.map Char.toNat) := by
    rw [← Text.utf8Points?_utf8, hbytes, detectPoints?_of_ascii (hne hc) hlt (hne hd)]
  rw [readDetected, hpoints]
  dsimp only
  rw [ofPointsLenient_map_toNat]

theorem readBytes_utf8 (text : String) : readBytes .utf8 (Text.utf8 text) = read text := by
  rw [readBytes, Encoding.decode?, Text.ofUtf8?_utf8]

/-! ## Objects -/

variable {layout : Layout} {entries : List (Value × Value)} {text : String}

/-- The text of an object starts with its bracket, and a name or the other bracket. -/
theorem exists_toList_of_write_dict (hlayout : layout.IsPlain)
    (hentries : (Value.dict entries).IsJson False) (h : write layout (.dict entries) = .ok text) :
    ∃ d rest, text.toList = '\x7b' :: d :: rest ∧ (d = '"' ∨ d = '\x7d') := by
  obtain ⟨hkeys, -, hvalues⟩ := hentries.of_dict
  obtain ⟨-, texts, htexts, rfl⟩ := writeNested_dict_eq_ok_iff.1 h
  rw [String.toList_append, String.toList_append, List.append_assoc]
  cases entries with
  | nil =>
    rw [writeEntries] at htexts
    rw [← Except.ok.inj htexts, String.intercalate_nil]
    exact ⟨'\x7d', [], rfl, Or.inr rfl⟩
  | cons e rest =>
    have hitems := membersReadAs_of_writeEntries hlayout (List.cons_ne_nil e rest) hkeys
      (fun e he => reads_of_built hlayout (hvalues e he).built) htexts
    obtain ⟨more, hmore⟩ := hitems.quoted
    have htext : (layout.itemSeparator.intercalate texts).toList = '"' :: more := hmore
    rw [htext]
    exact ⟨'"', more ++ "\x7d".toList, rfl, Or.inl rfl⟩

/-- An object is read back from the UTF-8 of its text. -/
theorem readBytes_utf8_of_write (hlayout : layout.IsPlain)
    (hentries : (Value.dict entries).IsJson False) (h : write layout (.dict entries) = .ok text) :
    readBytes .utf8 (Text.utf8 text) = .ok (.dict entries) := by
  rw [readBytes_utf8]
  exact read_of_write hlayout hentries.built h

/-- **An object is read back from the UTF-8 of its text without knowing that it is UTF-8.** -/
theorem readDetected_of_write (hlayout : layout.IsPlain)
    (hentries : (Value.dict entries).IsJson False) (h : write layout (.dict entries) = .ok text) :
    readDetected (Text.utf8 text) = .ok (.dict entries) := by
  obtain ⟨d, rest, htext, hd⟩ := exists_toList_of_write_dict hlayout hentries h
  have hascii : 0 < d.toNat ∧ d.toNat < 0x80 := by
    rcases hd with rfl | rfl
    · decide
    · decide
  rw [readDetected_utf8 htext (by decide) hascii]
  exact read_of_write hlayout hentries.built h

end RelyingParty.Json
