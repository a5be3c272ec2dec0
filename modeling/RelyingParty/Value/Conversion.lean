import RelyingParty.Fault
import RelyingParty.Number.Integer

set_option autoImplicit false

/-! # Values as numbers and as collections

A claim that states a time may be written as a number or as text. `toInteger` gives the whole number
a value stands for: an integer itself, a floating-point number without its fraction, text by the
rules for integers in text.

`elements` gives what a value is a collection of: a mapping of its keys, a text of its characters, a
byte string of its bytes. -/

namespace RelyingParty.Value

/-- Why a value stands for no whole number. -/
inductive IntegerError where
  /-- Text that is no number, or no number at all. -/
  | notANumber
  /-- An infinite number. -/
  | infinite
  /-- A value of a type that never stands for a number. -/
  | kind
  deriving DecidableEq, Repr

/-- The whole number a value stands for. -/
def toInteger : Value → Except IntegerError Int
  | .int n => .ok n
  | .bool b => .ok (if b then 1 else 0)
  | .float x =>
    match x with
    | .infinity _ => .error .infinite
    | x => x.truncate?.elim (.error .notANumber) .ok
  | .text s => (Integer.ofText? s).elim (.error .notANumber) .ok
  | .brokenText _ => .error .notANumber
  | _ => .error .kind

@[simp] theorem toInteger_int (n : Int) : toInteger (.int n) = .ok n := rfl

/-- What a value is a collection of. -/
def elements : Value → Except Fault (List Value)
  | .list xs | .tuple xs | .set xs | .frozenSet xs => .ok xs
  | .dict entries => .ok (Entries.keys entries)
  | .text s => .ok (s.toList.map fun c => .text (String.singleton c))
  | .brokenText points => .ok (points.map fun n => ofPoints [n])
  | .bytes b => .ok (b.map fun x => .int x.toNat)
  | _ => .error .wrongType

end RelyingParty.Value
