import RelyingParty.Json.Reader
import RelyingParty.Text.Quoted

set_option autoImplicit false

/-! # Writing JSON

`write` prints a value under a `Layout`: the separators between items and after names, and whether
characters outside ASCII are escaped. Lists and tuples become arrays; the keys of a mapping become
names, numbers and constants among them by their JSON text. What JSON has no form for is refused,
at the first place where it is met from left to right, and so is what a reader would not take: an
integer with too many digits, or a value that is nested too deep. -/

namespace RelyingParty.Json

/-- The choices a writer leaves open. -/
structure Layout where
  /-- Between two items. -/
  itemSeparator : String
  /-- Between a name and its value. -/
  nameSeparator : String
  /-- Characters outside printable ASCII are escaped by their UTF-16 units. -/
  asciiOnly : Bool

/-- The layout of stored values: a space after each separator, ASCII only. -/
def Layout.stored : Layout := ⟨", ", ": ", true⟩

/-- The layout of HTTP bodies: no space, and characters as they are. -/
def Layout.compact : Layout := ⟨",", ":", false⟩

/-- Why a value is not written. -/
inductive WriteError where
  /-- A value JSON has no form for; its type is named. -/
  | value (typeName : String)
  /-- A key that is neither text, number nor constant; its type is named. -/
  | key (typeName : String)
  /-- An integer has more digits than are written. -/
  | tooManyDigits
  /-- Arrays and objects are nested too deep. -/
  | tooDeep
  deriving DecidableEq, Repr

/-- The wording of a refusal. -/
def WriteError.message : WriteError → String
  | .value typeName => "Object of type " ++ typeName ++ " is not JSON serializable"
  | .key typeName => "keys must be str, int, float, bool or None, not " ++ typeName
  | .tooManyDigits =>
    "Exceeds the limit (4300 digits) for integer string conversion; "
      ++ "use sys.set_int_max_str_digits() to increase the limit"
  | .tooDeep => "nested too deep"

/-! ## Strings -/

/-- An escape of one UTF-16 unit. -/
def unitEscape (unit : Nat) : List Char := '\\' :: 'u' :: Text.hexDigits 4 unit

/-- One character of a string. -/
def stringChar (asciiOnly : Bool) (c : Char) : List Char :=
  if c = '"' then ['\\', '"']
  else if c = '\\' then ['\\', '\\']
  else if c = '\n' then ['\\', 'n']
  else if c = '\r' then ['\\', 'r']
  else if c = '\t' then ['\\', 't']
  else if c = '\x08' then ['\\', 'b']
  else if c = '\x0c' then ['\\', 'f']
  else if c.toNat < 0x20 || (asciiOnly && 0x7E < c.toNat) then
    (Text.utf16Units c).flatMap unitEscape
  else [c]

/-- A string between quotes. -/
def stringText (asciiOnly : Bool) (s : String) : String :=
  String.ofList ('"' :: s.toList.flatMap (stringChar asciiOnly) ++ ['"'])

/-- Code points between quotes; those that are no characters are escaped. -/
def pointsText (asciiOnly : Bool) (points : List Nat) : String :=
  let one (n : Nat) := match Text.codePoint? n with
    | some c => stringChar asciiOnly c
    | none => unitEscape n
  String.ofList ('"' :: points.flatMap one ++ ['"'])

/-! ## Values -/

/-- The text of a floating-point number; the special ones have names. -/
def floatText (x : Binary64) : String :=
  match x with
  | .nan _ => "NaN"
  | .infinity negative => if negative then "-Infinity" else "Infinity"
  | .finite .. => x.text

/-- The text of an integer, unless it has more digits than are written. -/
def integerText (n : Int) : Except WriteError String :=
  if Integer.maxDigits < (Nat.toDigits 10 n.natAbs).length then .error .tooManyDigits
  else .ok (toString n)

/-- The name a key is written as, between quotes. -/
def keyText (asciiOnly : Bool) : Value → Except WriteError String
  | .text s => .ok (stringText asciiOnly s)
  | .brokenText points => .ok (pointsText asciiOnly points)
  | .null => .ok (stringText asciiOnly "null")
  | .bool b => .ok (stringText asciiOnly (if b then "true" else "false"))
  | .int n => (integerText n).map (stringText asciiOnly)
  | .float x => .ok (stringText asciiOnly (floatText x))
  | v => .error (.key v.typeName)

mutual

/-- The text of a value, in which arrays and objects may be nested `depth` deep. -/
def writeNested (layout : Layout) (depth : Nat) : Value → Except WriteError String
  | .null => .ok "null"
  | .bool b => .ok (if b then "true" else "false")
  | .int n => integerText n
  | .float x => .ok (floatText x)
  | .text s => .ok (stringText layout.asciiOnly s)
  | .brokenText points => .ok (pointsText layout.asciiOnly points)
  | .list xs => do
    if depth = 0 then throw .tooDeep
    let texts ← writeAll layout (depth - 1) xs
    return "[" ++ layout.itemSeparator.intercalate texts ++ "]"
  | .tuple xs => do
    if depth = 0 then throw .tooDeep
    let texts ← writeAll layout (depth - 1) xs
    return "[" ++ layout.itemSeparator.intercalate texts ++ "]"
  | .dict entries => do
    if depth = 0 then throw .tooDeep
    let texts ← writeEntries layout (depth - 1) entries
    return "\x7b" ++ layout.itemSeparator.intercalate texts ++ "\x7d"
  | v => .error (.value v.typeName)

def writeAll (layout : Layout) (depth : Nat) : List Value → Except WriteError (List String)
  | [] => .ok []
  | x :: xs => do
    let text ← writeNested layout depth x
    let texts ← writeAll layout depth xs
    return text :: texts

def writeEntries (layout : Layout) (depth : Nat) :
    List (Value × Value) → Except WriteError (List String)
  | [] => .ok []
  | entry :: rest => do
    let text ← writeEntry layout depth entry
    let texts ← writeEntries layout depth rest
    return text :: texts

def writeEntry (layout : Layout) (depth : Nat) : Value × Value → Except WriteError String
  | (k, v) => do
    let name ← keyText layout.asciiOnly k
    let text ← writeNested layout depth v
    return name ++ layout.nameSeparator ++ text

end

/-- The text of a value; it is nested no deeper than what is read. -/
def write (layout : Layout) (v : Value) : Except WriteError String := writeNested layout maxDepth v

end RelyingParty.Json
