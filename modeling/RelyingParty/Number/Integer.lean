import RelyingParty.Text.Blank
import RelyingParty.Text.DecimalDigit

set_option autoImplicit false

/-! # Integers written in text

A whole number in text is an optional sign and decimal digits of any script, in which single
underscores may stand between two digits; white space around it is ignored. Numbers of more than
`maxDigits` digits are refused.

`Integer.ofText?` reads this form. Numbers are written with ASCII digits by core's `toString`. -/

namespace RelyingParty.Integer

open Text

/-- The largest number of digits that is read. -/
def maxDigits : Nat := 4300

/-- White space around a number: the separators U+001C to U+001F do not count. -/
def isSpace (c : Char) : Bool := isBlank c && !(0x1C ≤ c.toNat && c.toNat ≤ 0x1F)

/-- Digits with single underscores between them; `afterDigit` says that an underscore may come. -/
def digits? : Bool → List Char → Option (List Nat)
  | afterDigit, [] => if afterDigit then some [] else none
  | afterDigit, c :: cs =>
    match decimalDigit? c with
    | some d => (digits? true cs).map (d :: ·)
    | none => if afterDigit && c = '_' then digits? false cs else none

/-- The number some decimal digits stand for. -/
def ofDigits (ds : List Nat) : Nat := ds.foldl (fun n d => 10 * n + d) 0

/-- An unsigned number. -/
def magnitude? (cs : List Char) : Option Nat :=
  (digits? false cs).bind fun ds => if ds.length ≤ maxDigits then some (ofDigits ds) else none

/-- A number with an optional sign. -/
def signed? : List Char → Option Int
  | '+' :: cs => (magnitude? cs).map Int.ofNat
  | '-' :: cs => (magnitude? cs).map fun n => -(Int.ofNat n)
  | cs => (magnitude? cs).map Int.ofNat

/-- The integer a text stands for. -/
def ofText? (s : String) : Option Int := signed? (trimBy isSpace s.toList)

end RelyingParty.Integer
