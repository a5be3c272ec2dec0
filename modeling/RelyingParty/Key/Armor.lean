import RelyingParty.Entries
import RelyingParty.Number.Integer
import RelyingParty.Text.Printable
import RelyingParty.Text.Quoted
import RelyingParty.Token.Base64

set_option autoImplicit false

/-! # Armored data

Keys and certificates are passed around as text: a line that names what begins, perhaps headers and
an empty line, the data in padded base64, and a line that names what ends.

`Armor.first` reads the first section of a text and `Armor.all` every one. What stands between
sections is not looked at, and neither is white space in the data. The base64 is exact: only the
digits `+` and `/` after the letters and decimal digits, padding at the end only and as much of it
as is needed, and no bits left over. -/

namespace RelyingParty.Key

/-! ## Errors -/

/-- Why data is not exact base64. -/
inductive DigitError where
  /-- A byte is no digit where it stands. -/
  | byte (place : Nat) (value : UInt8)
  /-- A digit is left over. -/
  | length (count : Nat)
  /-- The last digit has bits that belong to no byte. -/
  | lastDigit (place : Nat) (value : UInt8)
  /-- The padding does not fill the last group. -/
  | padding
  deriving DecidableEq, Repr

/-- The wording of an error. -/
def DigitError.message : DigitError → String
  | .byte place value => "InvalidByte(" ++ toString place ++ ", " ++ toString value.toNat ++ ")"
  | .length count => "InvalidLength(" ++ toString count ++ ")"
  | .lastDigit place value =>
    "InvalidLastSymbol(" ++ toString place ++ ", " ++ toString value.toNat ++ ")"
  | .padding => "InvalidPadding"

/-- Why a text holds no section. -/
inductive ArmorError where
  /-- A section does not begin or does not end. -/
  | framing
  /-- What begins has no name. -/
  | noBeginning
  /-- What ends has no name. -/
  | noEnd
  /-- Something else ends than began. -/
  | mismatch (beginning ending : String)
  /-- The data is not base64. -/
  | data (cause : DigitError)
  /-- A header has no colon. -/
  | header (line : String)
  deriving DecidableEq, Repr

/-- A character between double quotes. -/
def quotedChar (c : Char) : List Char :=
  if c = '"' || c = '\\' then ['\\', c]
  else if c = '\t' then ['\\', 't']
  else if c = '\n' then ['\\', 'n']
  else if c = '\r' then ['\\', 'r']
  else if c.toNat = 0 then ['\\', '0']
  else if Text.isPrintable c then [c]
  else "\\u\x7b".toList ++ Nat.toDigits 16 c.toNat ++ ['}']

/-- A text between double quotes. -/
def quotedName (s : String) : String :=
  "\"" ++ String.ofList (s.toList.flatMap quotedChar) ++ "\""

/-- The wording of an error. -/
def ArmorError.message : ArmorError → String
  | .framing => "MalformedFraming"
  | .noBeginning => "MissingBeginTag"
  | .noEnd => "MissingEndTag"
  | .mismatch beginning ending =>
    "MismatchedTags(" ++ quotedName beginning ++ ", " ++ quotedName ending ++ ")"
  | .data cause => "InvalidData(" ++ cause.message ++ ")"
  | .header line => "InvalidHeader(" ++ quotedName line ++ ")"

/-! ## Exact base64 -/

/-- The six bits a digit stands for. -/
def digit? (b : UInt8) : Option Nat :=
  if b = 45 || b = 95 then none else Base64.digit? b

/-- The digits of whole groups, the first of which stands at `place`. -/
def digitsFrom (place : Nat) : Bytes → Except DigitError (List Nat)
  | [] => .ok []
  | b :: rest =>
    match digit? b with
    | none => .error (.byte place b)
    | some d => (digitsFrom (place + 1) rest).map (d :: ·)

/-- The digits of the last group and the number of padding signs behind them. `count` digits of it
    have been read, and the padding began at `padded`. -/
def lastDigits (place count : Nat) (padded : Option Nat) (pads : Nat) :
    Bytes → Except DigitError (List Nat × Nat)
  | [] => .ok ([], pads)
  | b :: rest =>
    if b = Base64.pad then
      if count + pads < 2 then .error (.byte place b)
      else lastDigits (place + 1) count (some (padded.getD place)) (pads + 1) rest
    else
      match padded, digit? b with
      | some start, _ => .error (.byte start Base64.pad)
      | none, none => .error (.byte place b)
      | none, some d =>
        (lastDigits (place + 1) (count + 1) none pads rest).map fun (ds, pads) => (d :: ds, pads)

/-- The bytes of digits in groups of four; what is left over in a last group is dropped. -/
def bytesOfDigits : List Nat → Bytes
  | a :: b :: c :: d :: rest =>
    UInt8.ofNat (a * 4 + b / 16) :: UInt8.ofNat (b % 16 * 16 + c / 4)
      :: UInt8.ofNat (c % 4 * 64 + d) :: bytesOfDigits rest
  | [a, b, c] => [UInt8.ofNat (a * 4 + b / 16), UInt8.ofNat (b % 16 * 16 + c / 4)]
  | [a, b] => [UInt8.ofNat (a * 4 + b / 16)]
  | _ => []

/-- Whether a group of digits has bits that belong to no byte. -/
def hasSpareBits : List Nat → Bool
  | [_, b] => b % 16 != 0
  | [_, _, c] => c % 4 != 0
  | _ => false

/-- The last byte must be a digit or a padding sign if it stands alone behind whole groups. -/
def checkLonely (data : Bytes) : Except DigitError Unit :=
  match data.getLast? with
  | some b =>
    if data.length % 4 = 1 && b != Base64.pad && (digit? b).isNone then
      .error (.byte (data.length - 1) b)
    else .ok ()
  | none => .ok ()

/-- The bytes of exact base64. -/
def decodeExact (data : Bytes) : Except DigitError Bytes := do
  checkLonely data
  let place := (data.length - 1) / 4 * 4
  let whole ← digitsFrom 0 (data.take place)
  let (last, pads) ← lastDigits place 0 none 0 (data.drop place)
  if !data.isEmpty && last.length < 2 then throw (.length (place + last.length))
  if (last.length + pads) % 4 ≠ 0 then throw .padding
  if hasSpareBits last then
    let final := (data.drop (place + last.length - 1)).headD 0
    throw (.lastDigit (place + last.length - 1) final)
  return bytesOfDigits (whole ++ last)

/-! ## Sections -/

/-- Search for a mark: `left` of it are still to come, and `seen` stands before, last character
    first. A character that breaks the mark off does not begin it anew. -/
def searchMark (mark left seen : List Char) : List Char → Option (List Char × List Char)
  | [] => none
  | c :: rest =>
    match left with
    | [] => none
    | m :: ms =>
      if c ≠ m then searchMark mark mark (c :: seen) rest
      else if ms.isEmpty then some ((seen.drop (mark.length - 1)).reverse, rest)
      else searchMark mark ms (c :: seen) rest

/-- The text before a mark and the text behind it. -/
def splitAtMark? (mark : String) (cs : List Char) : Option (List Char × List Char) :=
  searchMark mark.toList mark.toList [] cs

/-- What may stand between a line and the next. -/
def isLineSpace (c : Char) : Bool := c == ' ' || c == '\t' || c == '\n' || c == '\r'

/-- A section as it is written. -/
structure Section where
  beginning : List Char
  headers : List Char
  data : List Char
  ending : List Char

/-- The headers of a section, which an empty line ends, and its data. -/
def splitHeaders (body : List Char) : List Char × List Char :=
  match splitAtMark? "\n\n" body with
  | some parts => parts
  | none => (splitAtMark? "\r\n\r\n" body).getD ([], body)

/-- The first section of a text, and the text behind it. -/
def section? (cs : List Char) : Option (Section × List Char) := do
  let (_, cs) ← splitAtMark? "-----BEGIN " cs
  let (beginning, cs) ← splitAtMark? "-----" cs
  let (body, cs) ← splitAtMark? "-----END " (cs.dropWhile isLineSpace)
  let (ending, cs) ← splitAtMark? "-----" cs
  let (headers, data) := splitHeaders body
  return (⟨beginning, headers, data, ending⟩, cs.dropWhile isLineSpace)

/-- The sections of a text; `fuel` bounds their number. -/
def sections : Nat → List Char → List Section
  | 0, _ => []
  | fuel + 1, cs =>
    match section? cs with
    | some (s, rest) => s :: sections fuel rest
    | none => []

/-! ## Reading -/

/-- The data of a section with the name of what it is. -/
structure Armor where
  name : String
  headers : Entries String String
  contents : Bytes
  deriving DecidableEq, Repr

/-- The lines of a text. -/
def linesOf (cs : List Char) : List (List Char) :=
  let lines := (String.ofList cs).splitOn "\n" |>.map String.toList
  let lines := if lines.getLast? == some [] then lines.dropLast else lines
  lines.map fun line => if line.getLast? == some '\r' then line.dropLast else line

/-- A header: its name and its value. -/
def headerOf (line : List Char) : Except ArmorError (String × String) :=
  if line.contains ':' then
    let name := line.takeWhile (· != ':')
    let value := (line.dropWhile (· != ':')).drop 1
    let trimmed (cs : List Char) := String.ofList (Text.trimBy Integer.isSpace cs)
    .ok (trimmed name, trimmed value)
  else .error (.header (String.ofList line))

/-- Read a section. -/
def Section.read (s : Section) : Except ArmorError Armor := do
  if s.beginning.isEmpty then throw .noBeginning
  if s.ending.isEmpty then throw .noEnd
  let beginning := String.ofList s.beginning
  let ending := String.ofList s.ending
  if beginning ≠ ending then throw (.mismatch beginning ending)
  let data := String.ofList (s.data.filter fun c => !Integer.isSpace c)
  let contents ← (decodeExact (Text.utf8 data)).mapError .data
  let headers ← (linesOf s.headers).mapM headerOf
  return ⟨beginning, Entries.ofPairs headers, contents⟩

/-- The first section of a text. -/
def Armor.first (text : String) : Except ArmorError Armor :=
  match section? text.toList with
  | some (s, _) => s.read
  | none => .error .framing

/-- All sections of a text, of which there must be one. -/
def Armor.all (text : String) : Except ArmorError (List Armor) :=
  match sections text.length text.toList with
  | [] => .error .framing
  | found => found.mapM Section.read

end RelyingParty.Key
