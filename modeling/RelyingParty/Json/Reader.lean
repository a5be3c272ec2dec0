import RelyingParty.Text.DecimalDigit
import RelyingParty.Number.Integer
import RelyingParty.Value.Basic

set_option autoImplicit false

/-! # Reading JSON

Objects become mappings with text keys in the order of their members; a repeated member keeps its
first place and takes its last value. A number is an integer unless it has a fraction or an
exponent, and one beyond the range of a floating-point number is infinite. Besides JSON's own
values, `NaN`, `Infinity` and `-Infinity` are read. White space is space, tab, line feed and
carriage return only, and control characters must be escaped in strings.

An escape of half a surrogate pair stands for no character; a string with one is broken text.

Numbers may also be kept as the text they are written in, which is how documents of keys are read.

The reader is a recursive descent over characters. Arrays and objects may be nested `maxDepth` deep.
Its fuel is bounded by twice the length of the text, because one of two calls in a row consumes a
character. -/

namespace RelyingParty.Json

/-- Why a text is not read. -/
inductive ReadError where
  /-- The text is not JSON. -/
  | malformed
  /-- An integer has more digits than are read. -/
  | tooManyDigits (digits : Nat)
  /-- Arrays and objects are nested too deep. -/
  | tooDeep
  deriving DecidableEq, Repr

/-- How numbers are read. -/
inductive NumberStyle where
  /-- As the numbers they stand for. -/
  | exact
  /-- As text, the way they are written. -/
  | asWritten
  deriving DecidableEq, Repr

/-- The depth to which arrays and objects may be nested. -/
def maxDepth : Nat := 985

/-! ## Tokens -/

/-- JSON's white space. -/
def isSpace (c : Char) : Bool := c == ' ' || c == '\t' || c == '\n' || c == '\r'

/-- What follows white space. -/
def skipSpace (cs : List Char) : List Char := cs.dropWhile isSpace

/-- The value of a hexadecimal digit. -/
def hexValue? (c : Char) : Option Nat :=
  if '0' ≤ c ∧ c ≤ '9' then some (c.toNat - 48)
  else if 'a' ≤ c ∧ c ≤ 'f' then some (c.toNat - 87)
  else if 'A' ≤ c ∧ c ≤ 'F' then some (c.toNat - 55)
  else none

/-- The number four hexadecimal digits stand for. -/
def hex4? (a b c d : Char) : Option Nat := do
  let a ← hexValue? a
  let b ← hexValue? b
  let c ← hexValue? c
  let d ← hexValue? d
  return a * 4096 + b * 256 + c * 16 + d

/-- The character of an escape of one letter. -/
def letterEscape? : Char → Option Char
  | '"' => some '"'
  | '\\' => some '\\'
  | '/' => some '/'
  | 'b' => some '\x08'
  | 'f' => some '\x0c'
  | 'n' => some '\n'
  | 'r' => some '\r'
  | 't' => some '\t'
  | _ => none

/-- The rest of a string, after its opening quote: its code points, and what follows it. -/
def stringUnits : List Char → Option (List Nat × List Char)
  | [] => none
  | '"' :: rest => some ([], rest)
  | '\\' :: 'u' :: a :: b :: c :: d :: rest =>
    match hex4? a b c d with
    | some n => (stringUnits rest).map fun (units, after) => (n :: units, after)
    | none => none
  | '\\' :: c :: rest =>
    match letterEscape? c with
    | some ch => (stringUnits rest).map fun (units, after) => (ch.toNat :: units, after)
    | none => none
  | c :: rest =>
    if c.toNat < 0x20 then none
    else (stringUnits rest).map fun (units, after) => (c.toNat :: units, after)

/-- The rest of a string, after its opening quote: its text, and what follows it. -/
def stringBody (cs : List Char) : Option (Value × List Char) :=
  (stringUnits cs).map fun (units, after) => (.ofPoints (Text.joinSurrogates units), after)

/-! ## Numbers -/

/-- The leading ASCII digits, and what follows them. -/
def digitRun : List Char → List Nat × List Char
  | [] => ([], [])
  | c :: rest =>
    match Text.asciiDigit? c with
    | some d => let (ds, after) := digitRun rest; (d :: ds, after)
    | none => ([], c :: rest)

/-- The digits of a fraction; a point without a digit after it is not one. -/
def fraction (cs : List Char) : List Nat × List Char :=
  match cs with
  | '.' :: rest =>
    match digitRun rest with
    | ([], _) => ([], cs)
    | run => run
  | _ => ([], cs)

/-- An exponent, if there is one. -/
def exponent? (cs : List Char) : Option Int × List Char :=
  match cs with
  | c :: rest =>
    if c = 'e' ∨ c = 'E' then
      let (negative, digits) := match rest with
        | '-' :: ds => (true, ds)
        | '+' :: ds => (false, ds)
        | ds => (false, ds)
      match digitRun digits with
      | ([], _) => (none, cs)
      | (ds, after) =>
        let n : Int := Integer.ofDigits ds
        (some (if negative then -n else n), after)
    else (none, cs)
  | [] => (none, cs)

/-- The whole part of a number: a zero, or digits of which the first is not zero. -/
def wholePart (cs : List Char) : List Nat × List Char :=
  match digitRun cs with
  | (0 :: _, _) => ([0], cs.drop 1)
  | run => run

/-- A number without its sign. -/
structure Numeral where
  whole : List Nat
  fraction : List Nat
  exponent : Option Int

/-- A number without its sign, and what follows it. -/
def numeral? (cs : List Char) : Option (Numeral × List Char) :=
  match wholePart cs with
  | ([], _) => none
  | (whole, rest) =>
    match fraction rest with
    | (fraction, rest) =>
      match exponent? rest with
      | (exponent, rest) => some (⟨whole, fraction, exponent⟩, rest)

/-- The number a numeral stands for: an integer unless it has a fraction or an exponent. -/
def Numeral.value (n : Numeral) (negative : Bool) : Except ReadError Value :=
  if n.fraction.isEmpty && n.exponent.isNone then
    if Integer.maxDigits < n.whole.length then .error (.tooManyDigits n.whole.length)
    else .ok (.int (Binary64.signed negative (Integer.ofDigits n.whole)))
  else
    .ok (.float (Binary64.ofDecimal negative (Integer.ofDigits (n.whole ++ n.fraction))
      (n.exponent.getD 0 - n.fraction.length)))

/-- A number after its sign, and what follows it. -/
def number (style : NumberStyle) (negative : Bool) (cs : List Char) :
    Except ReadError (Value × List Char) :=
  match numeral? cs with
  | none => .error .malformed
  | some (numeral, rest) =>
    match style with
    | .exact => (numeral.value negative).map fun v => (v, rest)
    | .asWritten =>
      let written := cs.take (cs.length - rest.length)
      .ok (.text (String.ofList (if negative then '-' :: written else written)), rest)

/-- The constant that stands for no number. -/
def nan : Value := .float (.nan 0)

/-! ## Values -/

mutual

/-- A value, without white space before it, and what follows it. Arrays and objects may be nested
    `depth` deep in it. -/
def value (style : NumberStyle) (depth : Nat) :
    Nat → List Char → Except ReadError (Value × List Char)
  | 0, _ => .error .malformed
  | fuel + 1, cs =>
    match cs with
    | '"' :: rest =>
      match stringBody rest with
      | some body => .ok body
      | none => .error .malformed
    | '[' :: rest =>
      if depth = 0 then .error .tooDeep
      else
        match skipSpace rest with
        | ']' :: after => .ok (.list [], after)
        | rest =>
          match elements style (depth - 1) fuel rest with
          | .ok (xs, after) => .ok (.list xs, after)
          | .error e => .error e
    | '\x7b' :: rest =>
      if depth = 0 then .error .tooDeep
      else
        match skipSpace rest with
        | '\x7d' :: after => .ok (.dict [], after)
        | rest =>
          match members style (depth - 1) fuel rest with
          | .ok (entries, after) => .ok (.dict (Entries.ofPairs entries), after)
          | .error e => .error e
    | 'n' :: 'u' :: 'l' :: 'l' :: after => .ok (.null, after)
    | 't' :: 'r' :: 'u' :: 'e' :: after => .ok (.bool true, after)
    | 'f' :: 'a' :: 'l' :: 's' :: 'e' :: after => .ok (.bool false, after)
    | 'N' :: 'a' :: 'N' :: after => .ok (nan, after)
    | 'I' :: 'n' :: 'f' :: 'i' :: 'n' :: 'i' :: 't' :: 'y' :: after =>
      .ok (.float (.infinity false), after)
    | '-' :: 'I' :: 'n' :: 'f' :: 'i' :: 'n' :: 'i' :: 't' :: 'y' :: after =>
      .ok (.float (.infinity true), after)
    | '-' :: rest => number style true rest
    | cs => number style false cs

/-- The elements of a non-empty array, up to its closing bracket. -/
def elements (style : NumberStyle) (depth : Nat) :
    Nat → List Char → Except ReadError (List Value × List Char)
  | 0, _ => .error .malformed
  | fuel + 1, cs =>
    match value style depth fuel cs with
    | .error e => .error e
    | .ok (x, rest) =>
      match skipSpace rest with
      | ']' :: after => .ok ([x], after)
      | ',' :: rest =>
        match elements style depth fuel (skipSpace rest) with
        | .ok (xs, after) => .ok (x :: xs, after)
        | .error e => .error e
      | _ => .error .malformed

/-- The members of a non-empty object, up to its closing brace. -/
def members (style : NumberStyle) (depth : Nat) :
    Nat → List Char → Except ReadError (List (Value × Value) × List Char)
  | 0, _ => .error .malformed
  | fuel + 1, cs =>
    match cs with
    | '"' :: rest =>
      match stringBody rest with
      | none => .error .malformed
      | some (name, rest) =>
        match skipSpace rest with
        | ':' :: rest =>
          match value style depth fuel (skipSpace rest) with
          | .error e => .error e
          | .ok (x, rest) =>
            match skipSpace rest with
            | '\x7d' :: after => .ok ([(name, x)], after)
            | ',' :: rest =>
              match members style depth fuel (skipSpace rest) with
              | .ok (entries, after) => .ok ((name, x) :: entries, after)
              | .error e => .error e
            | _ => .error .malformed
        | _ => .error .malformed
    | _ => .error .malformed

end

/-- The value a text of JSON stands for, with its numbers in a style. -/
def readAs (style : NumberStyle) (text : String) : Except ReadError Value :=
  let cs := text.toList
  match value style maxDepth (2 * cs.length + 1) (skipSpace cs) with
  | .error e => .error e
  | .ok (v, rest) => if (skipSpace rest).isEmpty then .ok v else .error .malformed

/-- The value a text of JSON stands for. -/
def read (text : String) : Except ReadError Value := readAs .exact text

/-- The value of some bytes: the text an encoding reads, as JSON. -/
def readBytes (encoding : Encoding) (bytes : Bytes) : Except ReadError Value :=
  match encoding.decode? bytes with
  | none => .error .malformed
  | some text => read text

/-! ## Bytes of unknown encoding -/

/-- The code points of JSON in UTF-8, UTF-16 or UTF-32: by a byte order mark, else by the zeros
    among the first four bytes, of which the first two characters leave a pattern. -/
def detectPoints? (bytes : Bytes) : Option (List Nat) :=
  if [0x00, 0x00, 0xFE, 0xFF] <+: bytes then Text.utf32Points? .big (bytes.drop 4)
  else if [0xFF, 0xFE, 0x00, 0x00] <+: bytes then Text.utf32Points? .little (bytes.drop 4)
  else if [0xFE, 0xFF] <+: bytes then Text.utf16Points? .big (bytes.drop 2)
  else if [0xFF, 0xFE] <+: bytes then Text.utf16Points? .little (bytes.drop 2)
  else if [0xEF, 0xBB, 0xBF] <+: bytes then Text.utf8Points? (bytes.drop 3)
  else match bytes with
  | a :: b :: c :: d :: _ =>
    if a = 0 then if b = 0 then Text.utf32Points? .big bytes else Text.utf16Points? .big bytes
    else if b = 0 then
      if c = 0 ∧ d = 0 then Text.utf32Points? .little bytes else Text.utf16Points? .little bytes
    else Text.utf8Points? bytes
  | [a, b] =>
    if a = 0 then Text.utf16Points? .big bytes
    else if b = 0 then Text.utf16Points? .little bytes
    else Text.utf8Points? bytes
  | _ => Text.utf8Points? bytes

/-- The value of bytes in an encoding that is to be found out. Half of a surrogate pair may stand in
    them unescaped; it is read as U+FFFD. -/
def readDetected (bytes : Bytes) : Except ReadError Value :=
  match detectPoints? bytes with
  | none => .error .malformed
  | some points => read (Text.ofPointsLenient points)

end RelyingParty.Json
