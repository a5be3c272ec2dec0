set_option autoImplicit false

/-! # Binary floating-point numbers

Numbers with a fraction or an exponent are held as double-precision numbers, exactly: a finite one
is a sign, a significand below 2^53 and an exponent of two. In canonical form the significand is at
least 2^52 unless the exponent is the least one, −1074; `ofRatio` builds this form, rounding a
quotient to the nearest number, a tie to the even significand.

All arithmetic is on `Nat` and `Int`, so that comparison with integers, truncation, reading and
writing are exact, and a sum is the number nearest to the exact one. A number that is no number
carries a tag, which tells two of them apart: it equals no number, but a container that holds one
recognises it. -/

namespace RelyingParty

/-- A double-precision number. -/
inductive Binary64 where
  | nan (tag : Nat)
  | infinity (negative : Bool)
  | finite (negative : Bool) (significand : Nat) (exponent : Int)
  deriving DecidableEq, Repr, Inhabited

namespace Binary64

/-! ## Powers -/

/-- A power of two. -/
def twoTo (n : Nat) : Nat := Nat.pow 2 n

/-- A power of ten. -/
def tenTo (n : Nat) : Nat := Nat.pow 10 n

/-! ## Rounding a quotient -/

/-- The quotient rounded to the nearest number, a tie to the even one. -/
def roundDiv (num den : Nat) : Nat :=
  let q := num / den
  let r := num % den
  if 2 * r < den then q else if den < 2 * r then q + 1 else q + q % 2

/-- The least exponent of two. -/
def minExponent : Int := -1074

/-- The greatest exponent of two. -/
def maxExponent : Int := 971

/-- Zero with a sign. -/
def zero (negative : Bool) : Binary64 := .finite negative 0 minExponent

/-- The numerator and denominator of `num / den`, divided by two to the power `e`. -/
def scale (num den : Nat) (e : Int) : Nat × Nat :=
  if 0 ≤ e then (num, den * twoTo e.toNat) else (num * twoTo (-e).toNat, den)

/-- The exponent at which `num / den` has a significand of 53 binary digits. -/
def exponentFor (num den : Nat) : Int :=
  let e : Int := (Nat.log2 num : Int) - (Nat.log2 den : Int) - 52
  let s := scale num den e
  let e := if s.1 < twoTo 52 * s.2 then e - 1 else e
  max e minExponent

/-- The number nearest to `num / den`. -/
def ofRatio (negative : Bool) (num den : Nat) : Binary64 :=
  if num = 0 then zero negative
  else
    let e := exponentFor num den
    let s := scale num den e
    let m := roundDiv s.1 s.2
    let (m, e) := if m = twoTo 53 then (twoTo 52, e + 1) else (m, e)
    if maxExponent < e then .infinity negative else .finite negative m e

/-! ## Decimal numbers -/

/-- The number of decimal digits of a number; zero has one. -/
def decimalLength (n : Nat) : Nat := (toString n).length

/-- The number nearest to `digits · 10 ^ exponent`. Decimals beyond either end of the range are
    settled by their order of magnitude alone. -/
def ofDecimal (negative : Bool) (digits : Nat) (exponent : Int) : Binary64 :=
  if digits = 0 then zero negative
  else
    let order := (decimalLength digits : Int) + exponent
    if 310 < order then .infinity negative
    else if order < -330 then zero negative
    else if 0 ≤ exponent then ofRatio negative (digits * tenTo exponent.toNat) 1
    else ofRatio negative digits (tenTo (-exponent).toNat)

/-- The numerator and denominator of a finite magnitude. -/
def ratio (significand : Nat) (exponent : Int) : Nat × Nat :=
  if 0 ≤ exponent then (significand * twoTo exponent.toNat, 1)
  else (significand, twoTo (-exponent).toNat)

/-- How many powers of ten below one a quotient lies, at most `fuel`. -/
def leadingZeros (num den : Nat) : Nat → Nat
  | 0 => 0
  | fuel + 1 => if den ≤ num then 0 else leadingZeros (num * 10) den fuel + 1

/-- The position of the decimal point: the quotient is below `10 ^ p` and not below a tenth of it.
    -/
def decimalOrder (num den : Nat) : Int :=
  if den ≤ num then (decimalLength (num / den) : Int)
  else 1 - (leadingZeros num den 400 : Int)

/-- The decimal of `n` digits that reads back as the number, the nearer one if there are two. -/
def decimalOfLength? (significand : Nat) (exponent : Int) (n : Nat) : Option (Nat × Int) :=
  let (num, den) := ratio significand exponent
  let unit := decimalOrder num den - (n : Int)
  let (num, den) :=
    if 0 ≤ unit then (num, den * tenTo unit.toNat) else (num * tenTo (-unit).toNat, den)
  let near := roundDiv num den
  let far := if near = num / den then near + 1 else near - 1
  let readsBack := fun d => decide (ofDecimal false d unit = .finite false significand exponent)
  if readsBack near then some (near, unit)
  else if readsBack far then some (far, unit)
  else none

/-- The decimal with the fewest digits that reads back as the number: digits and exponent of ten. -/
def shortestDecimal (significand : Nat) (exponent : Int) : Nat × Int :=
  ((List.range 17).findSome? fun n => decimalOfLength? significand exponent (n + 1)).getD (0, 0)

/-! ## Text -/

/-- Digits with a point: `order` of them stand before it. A number always has digits on both sides
    of the point. -/
def positional (digits : List Char) (order : Int) : List Char :=
  if order ≤ 0 then '0' :: '.' :: (List.replicate (-order).toNat '0' ++ digits)
  else if digits.length ≤ order.toNat then
    digits ++ List.replicate (order.toNat - digits.length) '0' ++ ['.', '0']
  else digits.take order.toNat ++ '.' :: digits.drop order.toNat

/-- One digit, the others after a point, and a signed exponent of at least two digits. -/
def scientific (digits : List Char) (exponent : Int) : List Char :=
  let magnitude := (toString exponent.natAbs).toList
  let magnitude := if magnitude.length < 2 then '0' :: magnitude else magnitude
  let point := if digits.length ≤ 1 then digits else digits.take 1 ++ '.' :: digits.drop 1
  point ++ 'e' :: (if exponent < 0 then '-' else '+') :: magnitude

/-- The text of a finite magnitude: the shortest decimal that reads back, positional from 10^−4 to
    below 10^16. -/
def magnitudeText (significand : Nat) (exponent : Int) : List Char :=
  if significand = 0 then ['0', '.', '0']
  else
    let (d, unit) := shortestDecimal significand exponent
    let digits := (toString d).toList
    let order := (digits.length : Int) + unit
    let digits := (digits.reverse.dropWhile (· = '0')).reverse
    if -4 < order && order ≤ 16 then positional digits order else scientific digits (order - 1)

/-- The text of a number. -/
def text : Binary64 → String
  | .nan _ => "nan"
  | .infinity negative => if negative then "-inf" else "inf"
  | .finite negative m e => String.ofList ((if negative then ['-'] else []) ++ magnitudeText m e)

/-! ## Comparison and integers -/

/-- Numeric equality: the zeros are equal and a NaN equals nothing. -/
def equals : Binary64 → Binary64 → Bool
  | .infinity a, .infinity b => a == b
  | .finite a m e, .finite b n f => m == n && (m == 0 || (a == b && e == f))
  | _, _ => false

/-- The sign applied to a magnitude. -/
def signed (negative : Bool) (n : Nat) : Int := if negative then -(n : Int) else n

/-- Equality with an integer. -/
def equalsInt : Binary64 → Int → Bool
  | .finite negative m e, n =>
    let (num, den) := ratio m e
    signed negative num == n * den
  | _, _ => false

/-- Whether a number is less than an integer. -/
def isBelow : Binary64 → Int → Bool
  | .finite negative m e, n =>
    let (num, den) := ratio m e
    signed negative num < n * den
  | .infinity negative, _ => negative
  | .nan _, _ => false

/-- Whether a number is greater than an integer. -/
def isAbove : Binary64 → Int → Bool
  | .finite negative m e, n =>
    let (num, den) := ratio m e
    n * den < signed negative num
  | .infinity negative, _ => !negative
  | .nan _, _ => false

/-- The integer a finite number rounds to towards zero. -/
def truncate? : Binary64 → Option Int
  | .finite negative m e =>
    let (num, den) := ratio m e
    some (signed negative (num / den))
  | _ => none

/-- A number without a fraction. -/
def isIntegral : Binary64 → Bool
  | .finite _ m e =>
    let (num, den) := ratio m e
    num % den == 0
  | _ => false

/-- Either zero. -/
def isZero : Binary64 → Bool
  | .finite _ m _ => m == 0
  | _ => false

def isNan : Binary64 → Bool
  | .nan _ => true
  | _ => false

/-! ## Sums -/

/-- The number nearest to an integer. -/
def ofInt (n : Int) : Binary64 := ofRatio (n < 0) n.natAbs 1

/-- The number with the other sign. -/
def negated : Binary64 → Binary64
  | .nan tag => .nan tag
  | .infinity negative => .infinity !negative
  | .finite negative m e => .finite (!negative) m e

/-- A magnitude in units of two to the power `unit`, which is not above its exponent. -/
def inUnits (unit : Int) (significand : Nat) (exponent : Int) : Nat :=
  significand * twoTo (exponent - unit).toNat

/-- The number nearest to a sum. Infinities of both signs have none. -/
def add : Binary64 → Binary64 → Binary64
  | .nan tag, _ | _, .nan tag => .nan tag
  | .infinity a, .infinity b => if a == b then .infinity a else .nan 0
  | .infinity a, _ | _, .infinity a => .infinity a
  | .finite a m e, .finite b n f =>
    let unit := min e f
    let sum := signed a (inUnits unit m e) + signed b (inUnits unit n f)
    let (num, den) := ratio sum.natAbs unit
    ofRatio (sum < 0) num den

end Binary64

end RelyingParty
