import RelyingParty.Text.Encoding
import RelyingParty.Text.Printable

set_option autoImplicit false

/-! # Quoted text

Messages show text and byte strings between quotes. The quote is an apostrophe, unless the text
holds an apostrophe and no double quote. Inside, the backslash and the chosen quote are escaped,
tab, line feed and carriage return have escapes of one letter, and every other character that is
not printable is written by its code point: two hexadecimal digits below U+0100, four below
U+10000, eight above. -/

namespace RelyingParty.Text

/-! ## Hexadecimal digits -/

/-- The lower-case hexadecimal digit of a number below sixteen. -/
def hexDigit (n : Nat) : Char := Char.ofNat (if n < 10 then 48 + n else 87 + n)

/-- The last `width` hexadecimal digits of a number, most significant first. -/
def hexDigits : Nat → Nat → List Char
  | 0, _ => []
  | width + 1, n => hexDigits width (n / 16) ++ [hexDigit (n % 16)]

@[simp] theorem length_hexDigits (width n : Nat) : (hexDigits width n).length = width := by
  induction width generalizing n with
  | zero => rfl
  | succ w ih => simp [hexDigits, ih]

/-- Two hexadecimal digits for each byte. -/
def hexOfBytes (bytes : List UInt8) : String :=
  String.ofList (bytes.flatMap fun b => hexDigits 2 b.toNat)

/-! ## Quoting -/

/-- The quote a text is written with. -/
def quoteFor (cs : List Char) : Char :=
  if cs.contains '\'' && !cs.contains '"' then '"' else '\''

/-- The escapes that do not depend on the class of the character. -/
def shortEscape? (quote c : Char) : Option (List Char) :=
  if c = quote || c = '\\' then some ['\\', c]
  else if c = '\t' then some ['\\', 't']
  else if c = '\n' then some ['\\', 'n']
  else if c = '\r' then some ['\\', 'r']
  else none

/-- An escape by code point. -/
def codePointEscape (n : Nat) : List Char :=
  if n < 0x100 then '\\' :: 'x' :: hexDigits 2 n
  else if n < 0x10000 then '\\' :: 'u' :: hexDigits 4 n
  else '\\' :: 'U' :: hexDigits 8 n

/-- One character between quotes. -/
def quoteChar (quote c : Char) : List Char :=
  match shortEscape? quote c with
  | some escaped => escaped
  | none => if isPrintable c then [c] else codePointEscape c.toNat

/-- A text between quotes. -/
def quoted (s : String) : String :=
  let cs := s.toList
  let quote := quoteFor cs
  String.ofList (quote :: cs.flatMap (quoteChar quote) ++ [quote])

/-- Code points between quotes; those that are no characters are escaped. -/
def quotedPoints (points : List Nat) : String :=
  let quote := quoteFor (ofPointsLenient points).toList
  let one (n : Nat) := match codePoint? n with
    | some c => quoteChar quote c
    | none => codePointEscape n
  String.ofList (quote :: points.flatMap one ++ [quote])

/-- One byte between quotes; bytes outside printable ASCII are escaped. -/
def quoteByte (quote : Char) (b : UInt8) : List Char :=
  let c := Char.ofNat b.toNat
  match shortEscape? quote c with
  | some escaped => escaped
  | none => if 0x20 ≤ b.toNat && b.toNat < 0x7F then [c] else codePointEscape b.toNat

/-- A byte string between quotes, marked with a leading `b`. -/
def quotedBytes (bytes : List UInt8) : String :=
  let quote := quoteFor (bytes.map fun b => Char.ofNat b.toNat)
  String.ofList ('b' :: quote :: bytes.flatMap (quoteByte quote) ++ [quote])

end RelyingParty.Text
