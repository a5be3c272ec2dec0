set_option autoImplicit false

/-! # Blank characters and trimmed text

Identifiers, roles and tokens are refused when they are *blank*: when every character of them is
white space. `isBlank` is the white space of the Unicode standard together with the separators
U+001C to U+001F; zero-width characters such as U+200B and U+FEFF are visible in this sense.

`strip` removes blank characters at both ends, `isBlankText` asks whether nothing else is there.
The small lemmas tie the two: a text is blank exactly when stripping leaves nothing. -/

namespace RelyingParty.Text

/-! ## Ranges of code points -/

/-- Whether a code point lies in one of the inclusive ranges. -/
def inRanges (ranges : List (Nat × Nat)) (n : Nat) : Bool :=
  ranges.any fun r => r.1 ≤ n && n ≤ r.2

/-- The code points of white space. -/
def blankRanges : List (Nat × Nat) :=
  [(0x09, 0x0D), (0x1C, 0x20), (0x85, 0x85), (0xA0, 0xA0), (0x1680, 0x1680), (0x2000, 0x200A),
   (0x2028, 0x2029), (0x202F, 0x202F), (0x205F, 0x205F), (0x3000, 0x3000)]

/-- A white space character. -/
def isBlank (c : Char) : Bool := inRanges blankRanges c.toNat

/-! ## Trimming -/

/-- Drop the characters of one class at both ends. -/
def trimBy (p : Char → Bool) (cs : List Char) : List Char :=
  ((cs.dropWhile p).reverse.dropWhile p).reverse

/-- Text without the blank characters at its ends. -/
def strip (s : String) : String := String.ofList (trimBy isBlank s.toList)

/-- A text of blank characters only; the empty text is one. -/
def isBlankText (s : String) : Bool := s.toList.all isBlank

theorem dropWhile_eq_nil_iff (p : Char → Bool) (cs : List Char) :
    cs.dropWhile p = [] ↔ cs.all p = true := by
  induction cs with
  | nil => simp
  | cons c cs ih => by_cases h : p c = true <;> simp_all

theorem trimBy_eq_nil_iff (p : Char → Bool) (cs : List Char) :
    trimBy p cs = [] ↔ cs.all p = true := by
  unfold trimBy
  rw [List.reverse_eq_nil_iff, dropWhile_eq_nil_iff, List.all_reverse]
  induction cs with
  | nil => simp
  | cons c cs ih => by_cases h : p c = true <;> simp_all

/-- Stripping leaves nothing exactly of a blank text. -/
theorem strip_eq_empty_iff (s : String) : strip s = "" ↔ isBlankText s = true := by
  have key := trimBy_eq_nil_iff isBlank s.toList
  unfold strip isBlankText
  rw [← key]
  constructor
  · intro h
    have := congrArg String.toList h
    simpa using this
  · intro h
    rw [h]

@[simp] theorem isBlankText_empty : isBlankText "" = true := rfl

end RelyingParty.Text
