import RelyingParty.Entries
import RelyingParty.Number.Binary64
import RelyingParty.Text.Encoding
import RelyingParty.Value.Enumeration

set_option autoImplicit false

/-! # Dynamic values

Claims, attributes and session entries are values whose type is known only when they are met: the
values of JSON, and beside them tuples, sets, byte strings, members of enumerations and objects
about which nothing is known.

Text is made of characters, except that an escape in JSON may leave half of a surrogate pair in it.
Such text is a value of its own, `brokenText`, which no encoding writes and no text equals.

`same` is the equality of these values. Booleans count as the integers 0 and 1, integers and
floating-point numbers are compared exactly, the order of a mapping's entries does not matter, and a
set equals a frozen set of the same elements. A number that is no number is the same as itself only.

A value that can change in place, or holds one that can, is not `hashable`: it can be neither a key
nor a role. `truthy` tells empty and zero values from the others. -/

namespace RelyingParty

/-- A value of a type known only when it is met. -/
inductive Value where
  | null
  | bool (b : Bool)
  | int (n : Int)
  | float (x : Binary64)
  | text (s : String)
  /-- Text with half of a surrogate pair in it, by its code points. -/
  | brokenText (points : List Nat)
  | list (xs : List Value)
  | tuple (xs : List Value)
  | set (xs : List Value)
  | frozenSet (xs : List Value)
  | bytes (b : Bytes)
  | dict (entries : List (Value × Value))
  | member (m : Member)
  /-- A thing without any known operation; the number tells two of them apart. -/
  | object (id : Nat)
  deriving Inhabited, Repr

/-! ## Numbers among values -/

/-- An exact number. -/
inductive Numeric where
  | whole (n : Int)
  | real (x : Binary64)

/-- Equality of numbers, except that a number that is no number is the same as itself. -/
def Numeric.same : Numeric → Numeric → Bool
  | .whole a, .whole b => a == b
  | .whole a, .real y => y.equalsInt a
  | .real x, .whole b => x.equalsInt b
  | .real x, .real y => x.equals y || (x.isNan && x == y)

/-- Whether a number is less than an integer. -/
def Numeric.isBelow : Numeric → Int → Bool
  | .whole a, n => a < n
  | .real x, n => x.isBelow n

/-- Whether a number is greater than an integer. -/
def Numeric.isAbove : Numeric → Int → Bool
  | .whole a, n => n < a
  | .real x, n => x.isAbove n

/-- A number added to an integer. -/
def Numeric.addedTo : Numeric → Int → Numeric
  | .whole a, n => .whole (n + a)
  | .real x, n => .real ((Binary64.ofInt n).add x)

/-- A number taken from an integer. -/
def Numeric.takenFrom : Numeric → Int → Numeric
  | .whole a, n => .whole (n - a)
  | .real x, n => .real ((Binary64.ofInt n).add x.negated)

namespace Value

/-- The number a value is; booleans are 0 and 1. -/
def numeric? : Value → Option Numeric
  | .bool b => some (.whole (if b then 1 else 0))
  | .int n => some (.whole n)
  | .float x => some (.real x)
  | _ => none

/-! ## Equality -/

mutual

/-- Equality of values. -/
def same : Value → Value → Bool
  | .null, b => match b with | .null => true | _ => false
  | .bool x, b => match b.numeric? with
    | some n => (Numeric.whole (if x then 1 else 0)).same n
    | none => false
  | .int x, b => match b.numeric? with | some n => (Numeric.whole x).same n | none => false
  | .float x, b => match b.numeric? with | some n => (Numeric.real x).same n | none => false
  | .text s, b => match b with | .text t => s == t | _ => false
  | .brokenText s, b => match b with | .brokenText t => s == t | _ => false
  | .list xs, b => match b with | .list ys => sameList xs ys | _ => false
  | .tuple xs, b => match b with | .tuple ys => sameList xs ys | _ => false
  | .set xs, b => match b with
    | .set ys | .frozenSet ys => xs.length == ys.length && allAmong xs ys
    | _ => false
  | .frozenSet xs, b => match b with
    | .set ys | .frozenSet ys => xs.length == ys.length && allAmong xs ys
    | _ => false
  | .bytes x, b => match b with | .bytes y => x == y | _ => false
  | .dict xs, b => match b with
    | .dict ys => xs.length == ys.length && allUnder xs ys
    | _ => false
  | .member x, b => match b with | .member y => x == y | _ => false
  | .object x, b => match b with | .object y => x == y | _ => false

/-- Equality of lists, element by element. -/
def sameList : List Value → List Value → Bool
  | [], ys => ys.isEmpty
  | x :: xs, ys => match ys with | y :: ys => same x y && sameList xs ys | [] => false

/-- Whether every value of the first list is the same as one of the second. -/
def allAmong : List Value → List Value → Bool
  | [], _ => true
  | x :: xs, ys => ys.any (same x) && allAmong xs ys

/-- Whether the second mapping has every entry of the first. -/
def allUnder : List (Value × Value) → List (Value × Value) → Bool
  | [], _ => true
  | entry :: rest, ys => hasEntry entry ys && allUnder rest ys

/-- Whether a mapping has an entry: under the key stands the value. -/
def hasEntry : Value × Value → List (Value × Value) → Bool
  | (k, v), ys => match ys.find? (fun e => same k e.1) with
    | some e => same v e.2
    | none => false

end

instance : BEq Value := ⟨same⟩

/-- A value is equal to another as a number or a thing, not merely recognised: NaN equals nothing.
    -/
def equals : Value → Value → Bool
  | .float x, b => !x.isNan && same (.float x) b
  | a, b => same a b

/-! ## Keys -/

mutual

/-- Whether a value may be a key: it cannot change in place. -/
def hashable : Value → Bool
  | .list _ | .set _ | .dict _ => false
  | .tuple xs => allHashable xs
  | _ => true

def allHashable : List Value → Bool
  | [] => true
  | x :: xs => hashable x && allHashable xs

end

/-! ## Kinds of values -/

/-- The sequences that attributes accumulate. -/
def sequence? : Value → Option (List Value)
  | .list xs | .tuple xs | .set xs | .frozenSet xs => some xs
  | _ => none

/-- Values that are neither zero nor empty. -/
def truthy : Value → Bool
  | .null => false
  | .bool b => b
  | .int n => n != 0
  | .float x => !x.isZero
  | .text s => s != ""
  | .brokenText points => !points.isEmpty
  | .list xs | .tuple xs | .set xs | .frozenSet xs => !xs.isEmpty
  | .bytes b => !b.isEmpty
  | .dict entries => !entries.isEmpty
  | .member _ | .object _ => true

/-- The name of a value's type, as messages show it. -/
def typeName : Value → String
  | .null => "NoneType"
  | .bool _ => "bool"
  | .int _ => "int"
  | .float _ => "float"
  | .text _ | .brokenText _ => "str"
  | .list _ => "list"
  | .tuple _ => "tuple"
  | .set _ => "set"
  | .frozenSet _ => "frozenset"
  | .bytes _ => "bytes"
  | .dict _ => "dict"
  | .member m => m.enumeration.name
  | .object _ => "object"

/-- Whether a value is null. -/
def isNull : Value → Bool
  | .null => true
  | _ => false

/-- Whether a value is text of either kind. -/
def isText : Value → Bool
  | .text _ | .brokenText _ => true
  | _ => false

/-- The text of some code points. -/
def ofPoints (points : List Nat) : Value :=
  match Text.ofPoints? points with
  | some s => .text s
  | none => .brokenText points

/-- The member of a mapping under a text key. -/
def field? (entries : List (Value × Value)) (name : String) : Option Value :=
  Entries.get? entries (.text name)

/-- The member of a mapping under a text key, null if there is none. -/
def fieldD (entries : List (Value × Value)) (name : String) : Value :=
  (field? entries name).getD .null

/-- Text, or null. -/
def ofText? : Option String → Value
  | some s => .text s
  | none => .null

end Value

end RelyingParty
