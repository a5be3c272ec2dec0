import RelyingParty.Json.Printer
import RelyingParty.Proofs.Text.Surrogates
import RelyingParty.Proofs.Value.Built

set_option autoImplicit false

/-! # Strings of JSON come back

A string is written between quotes with escapes, character by character, and each character is read
back as its UTF-16 units, or as itself where it is written as it is. `quotes_flatMap` puts the units
together, so that what is read is the string that was written: `quotes_stringText` for text,
`quotes_pointsText` for broken text. -/

namespace RelyingParty.Json

/-! ## Escapes -/

theorem hexValue?_hexDigit : ∀ n, n < 16 → hexValue? (Text.hexDigit n) = some n := by
  decide

/-- Four digits stand for the number they are written for. -/
theorem hex4?_hexDigits {n : Nat} (h : n < 0x10000) :
    ∃ a b c d, Text.hexDigits 4 n = [a, b, c, d] ∧ hex4? a b c d = some n := by
  refine ⟨_, _, _, _, rfl, ?_⟩
  have hdigit : ∀ k, hexValue? (Text.hexDigit (k % 16)) = some (k % 16) :=
    fun k => hexValue?_hexDigit _ (Nat.mod_lt _ (by decide))
  simp only [hex4?, hdigit, Option.bind_eq_bind, Option.bind_some, Option.some.injEq, pure]
  omega

variable {units : List Nat} {tail after : List Char}

/-- An escape of a unit is read as the unit. -/
theorem stringUnits_unitEscape {n : Nat} (h : n < 0x10000)
    (htail : stringUnits tail = some (units, after)) :
    stringUnits (unitEscape n ++ tail) = some (n :: units, after) := by
  obtain ⟨a, b, c, d, hdigits, hvalue⟩ := hex4?_hexDigits h
  rw [unitEscape, hdigits]
  show stringUnits ('\\' :: 'u' :: a :: b :: c :: d :: tail) = _
  rw [stringUnits, hvalue, htail]
  rfl

theorem stringUnits_unitEscapes {ns : List Nat} (h : ∀ n ∈ ns, n < 0x10000)
    (htail : stringUnits tail = some (units, after)) :
    stringUnits (ns.flatMap unitEscape ++ tail) = some (ns ++ units, after) := by
  induction ns with
  | nil => exact htail
  | cons n rest ih =>
    rw [List.flatMap_cons, List.append_assoc]
    exact stringUnits_unitEscape (h n (List.mem_cons_self ..))
      (ih fun m hm => h m (List.mem_cons_of_mem _ hm))

/-- A character that stands for itself is read as itself. -/
theorem stringUnits_plain {c : Char} (hquote : c ≠ '"') (hslash : c ≠ '\\')
    (hcontrol : ¬ c.toNat < 0x20) (htail : stringUnits tail = some (units, after)) :
    stringUnits (c :: tail) = some (c.toNat :: units, after) := by
  rw [stringUnits, if_neg hcontrol, htail]
  · rfl
  · exact hquote
  · intro _ _ _ _ _ h _
    exact hslash h
  · intro _ _ h _
    exact hslash h

/-- An escape of one letter is read as its character. -/
theorem stringUnits_letter {c ch : Char} (hc : c ≠ 'u') (hletter : letterEscape? c = some ch)
    (htail : stringUnits tail = some (units, after)) :
    stringUnits ('\\' :: c :: tail) = some (ch.toNat :: units, after) := by
  rw [stringUnits, hletter, htail]
  · rfl
  · intro _ _ _ _ _ h _
    exact hc h

/-! ## Characters -/

variable {asciiOnly : Bool}

/-- The units that a code point is read back as: those of UTF-16 where all but ASCII is escaped,
    else itself. -/
def writtenUnits (asciiOnly : Bool) (n : Nat) : List Nat :=
  match asciiOnly with
  | true => Text.pointUnits n
  | false => [n]

theorem writtenUnits_of_small {n : Nat} (h : n < 0x10000) : writtenUnits asciiOnly n = [n] := by
  cases asciiOnly with
  | true => exact Text.pointUnits_of_small h
  | false => rfl

theorem writtenUnits_of_ascii {c : Char} (h : c.toNat < 0x80) :
    writtenUnits asciiOnly c.toNat = [c.toNat] := writtenUnits_of_small (by omega)

theorem joinSurrogates_writtenUnits {points : List Nat} (h : ∀ n ∈ points, n < 0x110000) :
    Text.joinSurrogates (points.flatMap (writtenUnits asciiOnly))
      = Text.joinSurrogates points := by
  cases asciiOnly with
  | true => exact Text.joinSurrogates_pointUnits h
  | false =>
    show Text.joinSurrogates (points.flatMap fun n => [n]) = _
    rw [List.flatMap_singleton']

/-- A character is read back as its units. -/
theorem stringUnits_stringChar (c : Char) (htail : stringUnits tail = some (units, after)) :
    stringUnits (stringChar asciiOnly c ++ tail)
      = some (writtenUnits asciiOnly c.toNat ++ units, after) := by
  unfold stringChar
  split
  · next h =>
    rw [h, writtenUnits_of_ascii (by decide)]
    exact stringUnits_letter (by decide) rfl htail
  split
  · next h =>
    rw [h, writtenUnits_of_ascii (by decide)]
    exact stringUnits_letter (by decide) rfl htail
  split
  · next h =>
    rw [h, writtenUnits_of_ascii (by decide)]
    exact stringUnits_letter (by decide) rfl htail
  split
  · next h =>
    rw [h, writtenUnits_of_ascii (by decide)]
    exact stringUnits_letter (by decide) rfl htail
  split
  · next h =>
    rw [h, writtenUnits_of_ascii (by decide)]
    exact stringUnits_letter (by decide) rfl htail
  split
  · next h =>
    rw [h, writtenUnits_of_ascii (by decide)]
    exact stringUnits_letter (by decide) rfl htail
  split
  · next h =>
    rw [h, writtenUnits_of_ascii (by decide)]
    exact stringUnits_letter (by decide) rfl htail
  split
  · next hescaped =>
    have hunits : writtenUnits asciiOnly c.toNat = Text.utf16Units c := by
      cases asciiOnly with
      | true => rfl
      | false =>
        have hcontrol : c.toNat < 0x20 := by simpa using hescaped
        rw [writtenUnits_of_ascii (by omega), Text.utf16Units_of_ascii (by omega)]
    rw [hunits]
    exact stringUnits_unitEscapes (Text.utf16Units_lt c) htail
  · next hquote hslash _ _ _ _ _ hplain =>
    simp only [Bool.or_eq_true, Bool.and_eq_true, decide_eq_true_eq, not_or, not_and] at hplain
    have hunits : writtenUnits asciiOnly c.toNat = [c.toNat] := by
      cases asciiOnly with
      | true =>
        have hascii := hplain.2 rfl
        exact writtenUnits_of_ascii (by omega)
      | false => rfl
    rw [hunits]
    exact stringUnits_plain hquote hslash hplain.1 htail

/-- Every digit of an escape is ASCII. -/
theorem isAscii_unitEscape (n : Nat) : Text.IsAscii (unitEscape n) := by
  have hdigit : ∀ k, k < 16 → (Text.hexDigit k).toNat < 0x80 := by decide
  have hmod : ∀ k, (Text.hexDigit (k % 16)).toNat < 0x80 :=
    fun k => hdigit _ (Nat.mod_lt _ (by decide))
  intro c hc
  simp only [unitEscape, Text.hexDigits, List.nil_append, List.cons_append, List.mem_cons,
    List.not_mem_nil, or_false] at hc
  rcases hc with rfl | rfl | rfl | rfl | rfl | rfl
  · decide
  · decide
  · exact hmod _
  · exact hmod _
  · exact hmod _
  · exact hmod _

theorem isAscii_stringChar (c : Char) : Text.IsAscii (stringChar true c) := by
  unfold stringChar
  split
  · decide
  split
  · decide
  split
  · decide
  split
  · decide
  split
  · decide
  split
  · decide
  split
  · decide
  split
  · exact Text.isAscii_flatMap fun n _ => isAscii_unitEscape n
  · next hplain =>
    simp only [Bool.true_and, Bool.or_eq_true, decide_eq_true_eq, not_or] at hplain
    intro d hd
    rw [List.mem_singleton.1 hd]
    omega

/-! ## Strings -/

/-- A text is a string between quotes: what follows the first quote is read as the string. -/
structure Quotes (asciiOnly : Bool) (text : String) (v : Value) : Prop where
  body : ∃ body, text.toList = '"' :: body ∧ (asciiOnly = true → Text.IsAscii body)
    ∧ ∀ rest, stringBody (body ++ rest) = some (v, rest)

variable {α : Type} {written : α → List Char} {units : α → List Nat}

/-- Parts that are read as their units are a string together. -/
theorem quotes_flatMap {xs : List α}
    (hascii : asciiOnly = true → ∀ x ∈ xs, Text.IsAscii (written x))
    (hread : ∀ x ∈ xs, ∀ tail ns after, stringUnits tail = some (ns, after) →
      stringUnits (written x ++ tail) = some (units x ++ ns, after)) :
    Quotes asciiOnly (String.ofList ('"' :: xs.flatMap written ++ ['"']))
      (.ofPoints (Text.joinSurrogates (xs.flatMap units))) := by
  refine ⟨⟨xs.flatMap written ++ ['"'], ?_, fun h => ?_, fun rest => ?_⟩⟩
  · rw [String.toList_ofList]
    rfl
  · exact Text.isAscii_append (Text.isAscii_flatMap (hascii h)) (by decide)
  · have hunits : stringUnits (xs.flatMap written ++ '"' :: rest)
        = some (xs.flatMap units, rest) := by
      clear hascii
      induction xs with
      | nil => rfl
      | cons x xs ih =>
        rw [List.flatMap_cons, List.flatMap_cons, List.append_assoc]
        exact hread x (List.mem_cons_self ..) _ _ _
          (ih fun y hy => hread y (List.mem_cons_of_mem _ hy))
    rw [List.append_assoc, List.singleton_append, stringBody, hunits, Option.map_some]

/-- Text between quotes is read as the text. -/
theorem quotes_stringText (s : String) : Quotes asciiOnly (stringText asciiOnly s) (.text s) := by
  have hpoints : Value.ofPoints (Text.joinSurrogates
      (s.toList.flatMap fun c => writtenUnits asciiOnly c.toNat)) = .text s := by
    unfold Value.ofPoints
    rw [← List.flatMap_map, joinSurrogates_writtenUnits Text.toNat_lt_of_mem,
      Text.joinSurrogates_map_toNat, Text.ofPoints?_map_toNat, String.ofList_toList]
  rw [← hpoints]
  refine quotes_flatMap (fun h c _ => ?_) fun c _ _ _ _ htail => stringUnits_stringChar c htail
  rw [h]
  exact isAscii_stringChar c

/-- Broken text between quotes is read as the broken text. -/
theorem quotes_pointsText {points : List Nat} (h : Value.IsBroken points) :
    Quotes asciiOnly (pointsText asciiOnly points) (.brokenText points) := by
  have hpoints : Value.ofPoints (Text.joinSurrogates (points.flatMap (writtenUnits asciiOnly)))
      = .brokenText points := by
    unfold Value.ofPoints
    rw [joinSurrogates_writtenUnits h.bound, h.unpaired, h.noText]
  rw [← hpoints]
  -- a character is escaped by its units if at all, a half of a pair by itself
  refine quotes_flatMap (fun hascii n _ => ?_) fun n hn tail ns after htail => ?_
  · split
    · next c _ =>
      rw [hascii]
      exact isAscii_stringChar c
    · exact isAscii_unitEscape n
  · split
    · next c hc =>
      rw [← Text.codePoint?_eq_some hc]
      exact stringUnits_stringChar c htail
    · next hnone =>
      have hsmall : n < 0x10000 := Text.lt_of_codePoint?_eq_none hnone (h.bound n hn)
      rw [writtenUnits_of_small hsmall]
      exact stringUnits_unitEscape hsmall htail

/-- **What a string is written as is read as the string.** -/
theorem quotes_of_keyText {v : Value} (hv : v.IsString) {text : String}
    (h : keyText asciiOnly v = .ok text) : Quotes asciiOnly text v := by
  rcases hv with ⟨s, rfl⟩ | ⟨points, rfl, hbroken⟩
  · rw [keyText] at h
    rw [← Except.ok.inj h]
    exact quotes_stringText s
  · rw [keyText] at h
    rw [← Except.ok.inj h]
    exact quotes_pointsText hbroken

/-- A string is written the same way as a name and as a value. -/
theorem writeNested_eq_keyText {v : Value} (hv : v.IsString) (layout : Layout) (depth : Nat) :
    writeNested layout depth v = keyText layout.asciiOnly v := by
  rcases hv with ⟨s, rfl⟩ | ⟨points, rfl, -⟩
  · rw [writeNested, keyText]
  · rw [writeNested, keyText]

end RelyingParty.Json
