import RelyingParty.Json.Reader
import RelyingParty.Value.Display

set_option autoImplicit false

/-! # Fields of a configuration

Settings and provider documents are read field by field. A field takes values that plainly stand for
what it holds: a switch also takes 0, 1 and the usual words, a number also takes a numeral, an
integral floating-point number or a member of an enumeration, a list also takes a tuple or a set.
Everything else is a problem, and all problems of a document are reported together, each with its
path. -/

namespace RelyingParty

/-- Why a field is not read. -/
inductive FieldError where
  | missing
  | extraForbidden
  | invalidKey
  | modelType
  | stringType
  | stringUnicode
  | boolType
  | boolParsing
  | intType
  | intParsing
  | intParsingSize
  | intFromFloat
  | finiteNumber
  | listType
  deriving DecidableEq, Repr

/-- The code of an error. -/
def FieldError.code : FieldError → String
  | .missing => "missing"
  | .extraForbidden => "extra_forbidden"
  | .invalidKey => "invalid_key"
  | .modelType => "model_type"
  | .stringType => "string_type"
  | .stringUnicode => "string_unicode"
  | .boolType => "bool_type"
  | .boolParsing => "bool_parsing"
  | .intType => "int_type"
  | .intParsing => "int_parsing"
  | .intParsingSize => "int_parsing_size"
  | .intFromFloat => "int_from_float"
  | .finiteNumber => "finite_number"
  | .listType => "list_type"

/-- A problem with a document: where it is, and what it is. -/
structure Problem where
  path : List String
  error : FieldError
  deriving DecidableEq, Repr

/-- A problem inside a member. -/
def Problem.under (name : String) (p : Problem) : Problem := { p with path := name :: p.path }

namespace Field

/-- What reads a field. -/
abbrev Reader (α : Type) := Value → Except (List Problem) α

/-- A problem with the value itself. -/
def fail {α : Type} (error : FieldError) : Except (List Problem) α := .error [⟨[], error⟩]

/-! ## Text -/

/-- Text, text in bytes, or a member that stands for text. -/
def text : Reader String
  | .text s => .ok s
  | .brokenText points => .ok (Text.ofPointsLenient points)
  | .bytes b => (Text.ofUtf8? b).elim (fail .stringUnicode) .ok
  | .member m => .ok m.text
  | _ => fail .stringType

/-- Text that may be left out. -/
def optionalText : Reader (Option String)
  | .null => .ok none
  | v => (text v).map some

/-! ## Switches -/

/-- The words for on. -/
def onWords : List String := ["1", "t", "y", "on", "yes", "true"]

/-- The words for off. -/
def offWords : List String := ["0", "f", "n", "no", "off", "false"]

/-- A switch in words, whatever their case. -/
def switchOfWord (s : String) : Except (List Problem) Bool :=
  let word := String.ofList (s.toList.map Char.toLower)
  if onWords.contains word then .ok true
  else if offWords.contains word then .ok false
  else fail .boolParsing

/-- The integers a switch looks at are below this bound, 2^63, and not below its negative. -/
def wordBound : Int := 9223372036854775808

/-- Whether a switch looks at an integer. -/
def inWordRange (n : Int) : Bool := -wordBound ≤ n && n < wordBound

/-- A switch as a number. -/
def switchOfNumber (n : Int) : Except (List Problem) Bool :=
  if n = 0 then .ok false else if n = 1 then .ok true else fail .boolParsing

/-- The integer an integral floating-point number stands for, if it is not too large. -/
def integral? (x : Binary64) : Option Int :=
  x.truncate?.bind fun n => if x.isIntegral && -wordBound < n && n < wordBound then some n else none

/-- A switch. -/
def switch : Reader Bool
  | .bool b => .ok b
  | .text s => switchOfWord s
  | .brokenText _ => fail .stringUnicode
  | .bytes b => (Text.ofUtf8? b).elim (fail .boolParsing) switchOfWord
  | .int n => if inWordRange n then switchOfNumber n else fail .boolType
  | .float x => (integral? x).elim (fail .boolType) switchOfNumber
  | _ => fail .boolType

/-! ## Whole numbers -/

/-- A minus, if there is one, and the whole number that follows it, with the rest of the text. -/
def leadingNumber (cs : List Char) : Bool × List Nat × List Char :=
  match cs with
  | '-' :: digits => (true, Json.wholePart digits)
  | digits => (false, Json.wholePart digits)

/-- The integer a text is: nothing but a minus and digits without a leading zero. -/
def plainInteger? (cs : List Char) : Option Int :=
  match leadingNumber cs with
  | (negative, ds@(_ :: _), []) =>
    if Integer.maxDigits < ds.length then none
    else some (Binary64.signed negative (Integer.ofDigits ds))
  | _ => none

/-- Whether a text starts with a number that is too long to be read. The minus counts as a digit. -/
def startsTooLong (cs : List Char) : Bool :=
  match leadingNumber cs with
  | (negative, ds, _) => Integer.maxDigits < ds.length + (if negative then 1 else 0)

/-- A digit other than zero, or a minus. -/
def startsNumeral (c : Char) : Bool := ('1' ≤ c && c ≤ '9') || c == '-'

/-- The text after the zeros, and the underscores among them, at its start; a point keeps the
    character before it, and of nothing but zeros the last one stays. -/
def withoutLeadingZeros (cs : List Char) : Option (List Char) :=
  match cs with
  | [] => none
  | '0' :: rest =>
    let skipped := '0' :: rest.takeWhile (fun c => c = '0' || c = '_')
    let last := skipped.getLastD '0'
    match cs.drop skipped.length with
    | [] => some [last]
    | c :: after =>
      if startsNumeral c then some (c :: after)
      else if c = '.' then some (last :: c :: after)
      else none
  | c :: _ => if startsNumeral c then some cs else none

/-- A numeral without a fraction of zeros. -/
def withoutZeroFraction (cs : List Char) : List Char :=
  match cs.dropWhile (· ≠ '.') with
  | _ :: zero :: zeros =>
    if (zero :: zeros).all (· = '0') then cs.takeWhile (· ≠ '.') else cs
  | _ => cs

/-- Whether underscores stand alone, and between other characters. -/
def separates : List Char → Bool
  | [] => true
  | ['_'] => false
  | '_' :: '_' :: _ => false
  | _ :: cs => separates cs

/-- A numeral without the underscores that separate its digits. -/
def withoutUnderscores (cs : List Char) : List Char :=
  if cs.head? != some '_' && separates cs then cs.filter (· ≠ '_') else cs

/-- A numeral in a plainer form: without white space around it, plus, leading zeros, a fraction of
    zeros and separating underscores. -/
def plainer? (cs : List Char) : Option (List Char) :=
  let unsigned? := match Text.trimBy Integer.isSpace cs with
    | '+' :: '-' :: _ => none
    | '+' :: rest => some rest
    | rest => some rest
  (unsigned?.bind withoutLeadingZeros).map fun rest => withoutUnderscores (withoutZeroFraction rest)

/-- The number a numeral states. -/
def numberOfNumeral (s : String) : Except (List Problem) Int :=
  let cs := s.toList
  match plainInteger? cs with
  | some n => .ok n
  | none =>
    if startsTooLong cs then fail .intParsingSize
    else ((plainer? cs).bind plainInteger?).elim (fail .intParsing) .ok

/-- A whole number; a member of an enumeration is read as the text it stands for. -/
def number : Reader Value
  | .int n => .ok (.int n)
  | .bool b => .ok (.int (if b then 1 else 0))
  | .text s => (numberOfNumeral s).map .int
  | .brokenText _ => fail .stringUnicode
  | .bytes b => (Text.ofUtf8? b).elim (fail .intParsing) fun s => (numberOfNumeral s).map .int
  | .float x =>
    match x.truncate? with
    | none => fail .finiteNumber
    | some _ =>
      if !x.isIntegral then fail .intFromFloat
      else (integral? x).elim (fail .intParsingSize) fun n => .ok (.int n)
  | .member m => .ok (.text m.text)
  | _ => fail .intType

/-! ## Lists -/

/-- The elements of a list of texts from a position on. -/
def textsFrom : Nat → List Value → List String × List Problem
  | _, [] => ([], [])
  | i, v :: rest =>
    let (texts, problems) := textsFrom (i + 1) rest
    match text v with
    | .ok s => (s :: texts, problems)
    | .error ps => (texts, ps.map (Problem.under (toString i)) ++ problems)

/-- A list of texts. -/
def texts : Reader (List String) := fun v =>
  match v.sequence? with
  | none => fail .listType
  | some vs =>
    match textsFrom 0 vs with
    | (texts, []) => .ok texts
    | (_, problems) => .error problems

/-! ## Documents -/

/-- Reading a document: problems are collected on the way. -/
abbrev Reading := StateM (List Problem)

/-- Note problems inside a member. -/
def note (name : String) (problems : List Problem) : Reading Unit :=
  modify (· ++ problems.map (Problem.under name))

/-- A member of a document, which takes a default if it is left out. -/
def member {α : Type} (members : Entries String Value) (name : String) (read : Reader α)
    (default : α) : Reading α :=
  match members.get? name with
  | none => pure default
  | some v =>
    match read v with
    | .ok a => pure a
    | .error problems => do
      note name problems
      pure default

/-- A member that must not be left out. -/
def required {α : Type} (members : Entries String Value) (name : String) (read : Reader α)
    (default : α) : Reading α :=
  match members.get? name with
  | none => do
    note name [⟨[], .missing⟩]
    pure default
  | some _ => member members name read default

/-- The document, unless there were problems. -/
def run {α : Type} (reading : Reading α) : Except (List Problem) α :=
  match reading.run [] with
  | (a, []) => .ok a
  | (_, problems) => .error problems

end Field

end RelyingParty
