import RelyingParty.Text.Encoding

set_option autoImplicit false

/-! # Structures of tagged elements

Keys and certificates are encoded as nested elements: a tag, a length, and the content. There is one
way to write a tag, a length or a number, and every other way is refused.

A `Der α` takes elements from the front of some bytes, as `elementOf` takes the next one, which has
to have a certain tag. `Der.whole` reads all of the bytes. -/

namespace RelyingParty.Key

/-! ## Tags -/

/-- The classes of tags. -/
inductive TagClass where
  | universal
  | application
  | contextSpecific
  | privateUse
  deriving DecidableEq, Repr

/-- The name of a class. -/
def TagClass.name : TagClass → String
  | .universal => "Universal"
  | .application => "Application"
  | .contextSpecific => "ContextSpecific"
  | .privateUse => "Private"

/-- A tag: what an element is. -/
structure Tag where
  number : Nat
  constructed : Bool
  kind : TagClass
  deriving DecidableEq, Repr

namespace Tag

def integer : Tag := ⟨2, false, .universal⟩
def bitString : Tag := ⟨3, false, .universal⟩
def octetString : Tag := ⟨4, false, .universal⟩
def null : Tag := ⟨5, false, .universal⟩
def objectIdentifier : Tag := ⟨6, false, .universal⟩
def sequence : Tag := ⟨16, true, .universal⟩

/-- The tag of a member that is known by its number; it holds other elements. -/
def numbered (number : Nat) : Tag := ⟨number, true, .contextSpecific⟩

/-- A tag in messages. -/
def description (t : Tag) : String :=
  "Tag \x7b value: " ++ toString t.number ++ ", constructed: " ++ toString t.constructed
    ++ ", class: " ++ t.kind.name ++ " \x7d"

end Tag

/-! ## Errors -/

/-- Why bytes are not a structure of elements. -/
inductive DerError where
  /-- A content is not what its tag says. -/
  | value
  /-- A tag is not written in the shortest form. -/
  | tag
  /-- A length is not written in the shortest form. -/
  | length
  /-- An element has another tag than it should have. -/
  | unexpected (found : Tag)
  /-- Bytes are missing at the end. -/
  | short (missing : Nat)
  /-- A number is too large. -/
  | overflow
  /-- Something follows the last element. -/
  | extra
  deriving DecidableEq, Repr

/-- The wording of an error. -/
def DerError.message : DerError → String
  | .value => "invalid value"
  | .tag => "invalid tag"
  | .length => "invalid length"
  | .unexpected found => "unexpected tag (got " ++ found.description ++ ")"
  | .short missing =>
    "short data (needed at least " ++ toString missing ++ " additional bytes)"
  | .overflow => "integer overflow"
  | .extra => "extra data"

/-- An error as a structure of its own. -/
def DerError.description (e : DerError) : String :=
  let kind := match e with
    | .value => "InvalidValue"
    | .tag => "InvalidTag"
    | .length => "InvalidLength"
    | .unexpected found => "UnexpectedTag \x7b actual: " ++ found.description ++ " \x7d"
    | .short missing => "ShortData \x7b needed: " ++ toString missing ++ " \x7d"
    | .overflow => "IntegerOverflow"
    | .extra => "ExtraData"
  "ParseError \x7b kind: " ++ kind ++ " \x7d"

/-! ## Elements -/

/-- What takes elements from the front of bytes. -/
abbrev Der := StateT Bytes (Except DerError)

namespace Der

/-- Some bytes. -/
def take (count : Nat) : Der Bytes := do
  let bytes ← get
  if bytes.length < count then throw (.short (count - bytes.length))
  set (bytes.drop count)
  return bytes.take count

/-- One byte. -/
def byte : Der Nat := return ((← take 1).headD 0).toNat

/-- A number in digits of seven bits, `count` at most; the highest bit says that another one
    follows. -/
def base128 (n : Nat) : Nat → Der Nat
  | 0 => throw .value
  | count + 1 => do
    let b ← byte
    let n := n * 128 + b % 128
    if b < 128 then return n else base128 n count

/-- The class of the first byte of a tag. -/
def classOf (b : Nat) : TagClass :=
  if b < 64 then .universal
  else if b < 128 then .application
  else if b < 192 then .contextSpecific
  else .privateUse

/-- A tag. -/
def tag : Der Tag := do
  let b ← byte
  let short := b % 32
  let number ← if short = 31 then base128 0 4 else pure short
  if short = 31 && number < 31 then throw .tag
  return ⟨number, b / 32 % 2 = 1, classOf b⟩

/-- A length in some bytes, which is not to be less than a bound. -/
def lengthIn (count bound : Nat) : Der Nat := do
  let n := (← take count).foldl (fun n b => 256 * n + b.toNat) 0
  if n < bound then throw .length
  return n

/-- A length. -/
def length : Der Nat := do
  match ← byte with
  | 0x81 => lengthIn 1 0x80
  | 0x82 => lengthIn 2 0x100
  | 0x83 => lengthIn 3 0x10000
  | 0x84 => lengthIn 4 0x1000000
  | b => if b < 0x80 then return b else throw .length

/-- The next element. -/
def element : Der (Tag × Bytes) := do
  let t ← tag
  let n ← length
  return (t, ← take n)

/-- The content of the next element, which has a certain tag. -/
def elementOf (expected : Tag) : Der Bytes := do
  let (t, content) ← element
  if t ≠ expected then throw (.unexpected t)
  return content

/-- The tag of the next element, if there is one. -/
def nextTag : Der (Option Tag) := do
  match tag (← get) with
  | .ok (t, _) => return some t
  | .error _ => return none

/-- The content of the next element if it has a certain tag. -/
def optionalOf (expected : Tag) : Der (Option Bytes) := do
  if (← nextTag) = some expected then return some (← elementOf expected) else return none

/-- Read all of some bytes. -/
def whole {α : Type} (d : Der α) (bytes : Bytes) : Except DerError α := do
  let (a, rest) ← d.run bytes
  if rest.isEmpty then return a else throw .extra

/-- Read the members of a sequence. -/
def sequence {α : Type} (d : Der α) : Der α := do
  let content ← elementOf .sequence
  d.whole content

/-! ## Contents -/

/-- A number is written in as few bytes as there can be, and it is not negative. -/
def isPlain : Bytes → Bool
  | [] => false
  | [a] => a < 0x80
  | a :: b :: _ => a < 0x80 && (a != 0 || 0x80 ≤ b)

/-- A number that is not negative. -/
def natural : Der Nat := do
  let content ← elementOf .integer
  if isPlain content then return content.foldl (fun n b => 256 * n + b.toNat) 0 else throw .value

/-- A number of one byte. -/
def small : Der Nat := do
  let n ← natural
  if n < 256 then return n else throw .overflow

/-- Whole bytes in a string of bits. -/
def bits : Der Bytes := do
  match ← elementOf .bitString with
  | [] => throw .value
  | unused :: content =>
    let spare := (content.getLast?.getD 0).toNat % Nat.pow 2 unused.toNat
    if 7 < unused || (content.isEmpty && unused != 0) || spare ≠ 0 then throw .value
    return content

/-- Nothing. -/
def null : Der Unit := do
  if !(← elementOf .null).isEmpty then throw .value

/-- Whole numbers in digits of seven bits. -/
def arcs : Nat → Der (List Nat)
  | 0 => return []
  | fuel + 1 => do
    if (← get).isEmpty then return []
    let n ← base128 0 4
    return n :: (← arcs fuel)

/-- The name of an object: numbers with points between them. -/
def name : Der String := do
  let content ← elementOf .objectIdentifier
  if content.isEmpty then throw .value
  let numbers ← (arcs content.length).whole content
  let first := numbers.headD 0
  let start := if first < 40 then [0, first] else if first < 80 then [1, first - 40]
    else [2, first - 80]
  return ".".intercalate ((start ++ numbers.drop 1).map toString)

end Der

end RelyingParty.Key
