import RelyingParty.Number.Integer

set_option autoImplicit false

/-! # Decimal numbers written in text

A number in text is an optional sign, decimal digits with a point before, among or behind them, and
an optional exponent; or it is one of the words for what is not finite. Each run of digits is
written like an integer, and white space around the number is ignored.

`Decimal.isNumeral` recognises this form. -/

namespace RelyingParty.Decimal

/-- The words for numbers that are not finite, whatever their case. -/
def words : List String := ["inf", "infinity", "nan"]

/-- Digits with single underscores between them. -/
def isRun (cs : List Char) : Bool := (Integer.digits? false cs).isSome

/-- A text without its sign. -/
def unsigned : List Char → List Char
  | '+' :: cs => cs
  | '-' :: cs => cs
  | cs => cs

/-- The mark of an exponent. -/
def marksExponent (c : Char) : Bool := c == 'e' || c == 'E'

/-- Digits that a point may divide; one of the two runs may be empty. -/
def isMantissa (cs : List Char) : Bool :=
  let whole := cs.takeWhile (· ≠ '.')
  match cs.dropWhile (· ≠ '.') with
  | [] => isRun whole
  | _ :: [] => isRun whole
  | _ :: fraction => (whole.isEmpty || isRun whole) && isRun fraction

/-- A number without its sign. -/
def isMagnitude (cs : List Char) : Bool :=
  let mantissa := cs.takeWhile (!marksExponent ·)
  isMantissa mantissa
    && match cs.dropWhile (!marksExponent ·) with
      | [] => true
      | _ :: exponent => isRun (unsigned exponent)

/-- Whether a text is a number. -/
def isNumeral (s : String) : Bool :=
  let cs := unsigned (Text.trimBy Integer.isSpace s.toList)
  words.contains (String.ofList (cs.map Char.toLower)) || isMagnitude cs

end RelyingParty.Decimal
