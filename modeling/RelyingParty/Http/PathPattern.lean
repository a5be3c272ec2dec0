set_option autoImplicit false

/-! # Patterns of paths

The path of an endpoint may have slots, such as `/login/{provider}`: any text without a slash stands
in such a slot. A slot may also state the kind of text it takes, as in `/login/{year:int}`. A brace
that belongs to no slot is a character like any other.

`PathPattern.read` reads a pattern, and `accepts` asks whether a path has its form. All ways to fill
the slots are tried, so that it does not matter where one slot ends and the next one starts. -/

namespace RelyingParty

/-- What may stand in a slot. -/
inductive SlotKind where
  /-- Some characters, none of which is a slash. -/
  | segment
  /-- Any characters of one line, or nothing. -/
  | rest
  /-- Digits. -/
  | digits
  /-- Digits, which a point and more digits may follow. -/
  | decimal
  /-- The five groups of hexadecimal digits of an identifier, with or without hyphens between them.
      -/
  | identifier
  deriving DecidableEq, Repr

/-- A part of a pattern. -/
inductive PathPart where
  /-- A character that has to stand there. -/
  | literal (c : Char)
  | slot (kind : SlotKind)
  deriving DecidableEq, Repr

/-- The form of a path. -/
abbrev PathPattern := List PathPart

/-- Why a text is no pattern. -/
inductive PathError where
  /-- There is no text. -/
  | empty
  /-- The kind of a slot is not known. -/
  | unknownKind (name : String)
  /-- Some slots have the same name. -/
  | repeatedNames (names : List String) (path : String)
  deriving DecidableEq, Repr

/-- The wording of an error. -/
def PathError.message : PathError → String
  | .empty => "Prefix and path cannot be both empty"
  | .unknownKind name => "Unknown path convertor '" ++ name ++ "'"
  | .repeatedNames names path =>
    "Duplicated param name" ++ (if 1 < names.length then "s " else " ")
      ++ ", ".intercalate names ++ " at path " ++ path

/-! ## Reading slots -/

namespace SlotKind

/-- The kinds by name. -/
def all : List (String × SlotKind) :=
  [("str", .segment), ("path", .rest), ("int", .digits), ("float", .decimal), ("uuid", .identifier)]

end SlotKind

/-- A slot as it is written. -/
structure WrittenSlot where
  name : String
  kind : String
  /-- The characters behind the opening brace. -/
  length : Nat
  deriving DecidableEq, Repr

namespace WrittenSlot

/-- A character of a name. -/
def isNameChar (c : Char) : Bool := c.isAlphanum || c == '_'

/-- A name at the beginning of some characters, and what follows; a digit starts no name. -/
def name? (cs : List Char) : Option (List Char × List Char) :=
  let name := cs.takeWhile isNameChar
  if name.isEmpty || name.head?.any Char.isDigit then none else some (name, cs.drop name.length)

/-- The slot whose opening brace stands before some characters. -/
def atBrace? (cs : List Char) : Option WrittenSlot := do
  let (name, after) ← name? cs
  match after with
  | '}' :: _ => return ⟨String.ofList name, "str", name.length + 1⟩
  | ':' :: rest =>
    let (kind, after) ← name? rest
    match after with
    | '}' :: _ => return ⟨String.ofList name, String.ofList kind, name.length + kind.length + 2⟩
    | _ => none
  | _ => none

end WrittenSlot

/-! ## Reading patterns -/

namespace PathPattern

/-- A character, or a slot as it is written. -/
abbrev Piece := Char ⊕ WrittenSlot

/-- The pieces of a text, from which some characters that belong to a slot are left out. -/
def pieces : Nat → List Char → List Piece
  | _, [] => []
  | n + 1, _ :: cs => pieces n cs
  | 0, c :: cs =>
    match (if c = '{' then WrittenSlot.atBrace? cs else none) with
    | some slot => .inr slot :: pieces slot.length cs
    | none => .inl c :: pieces 0 cs

/-- The part that a piece stands for. -/
def partOf : Piece → Except PathError PathPart
  | .inl c => .ok (.literal c)
  | .inr slot =>
    match SlotKind.all.find? (·.1 == slot.kind) with
    | some (_, kind) => .ok (.slot kind)
    | none => .error (.unknownKind slot.kind)

/-- The names of the slots. -/
def slotNames (found : List Piece) : List String := found.filterMap fun
  | .inl _ => none
  | .inr slot => some slot.name

/-- The order of names, character by character. -/
def nameLe : List Char → List Char → Bool
  | [], _ => true
  | _ :: _, [] => false
  | c :: cs, d :: ds => c.toNat < d.toNat || (c == d && nameLe cs ds)

/-- The names that occur more than once, in order. -/
def repeated (names : List String) : List String :=
  (names.eraseDups.filter fun name => 1 < names.count name).mergeSort
    fun a b => nameLe a.toList b.toList

/-- The pieces that count. A pattern that does not start with a slash is the name of a host: what
    stands behind its last slot ends at a colon. -/
def counted (path : String) (found : List Piece) : List Piece :=
  if path.toList.head? = some '/' then found
  else
    let tail := (found.reverse.takeWhile (·.isLeft)).reverse
    found.take (found.length - tail.length) ++ tail.takeWhile (· != .inl ':')

/-- The pattern of one path only. -/
def ofPath (path : String) : PathPattern := path.toList.map .literal

/-- Read a pattern. -/
def read (path : String) : Except PathError PathPattern := do
  if path.isEmpty then throw .empty
  let found := pieces 0 path.toList
  let names := repeated (slotNames found)
  let pattern ← (counted path found).mapM partOf
  if names.isEmpty then return pattern else throw (.repeatedNames names path)

/-! ## Paths of a form -/

/-- What may remain after one or more characters of a kind. -/
def afterSome (p : Char → Bool) : List Char → List (List Char)
  | [] => []
  | c :: cs => if p c then cs :: afterSome p cs else []

/-- A hexadecimal digit. -/
def isHexDigit (c : Char) : Bool :=
  c.isDigit || ('a' ≤ c && c ≤ 'f') || ('A' ≤ c && c ≤ 'F')

/-- What remains after a number of hexadecimal digits. -/
def afterGroup? (count : Nat) (cs : List Char) : Option (List Char) :=
  if (cs.take count).length = count && (cs.take count).all isHexDigit then some (cs.drop count)
  else none

/-- Characters without a hyphen in front of them. -/
def withoutHyphen : List Char → List Char
  | '-' :: cs => cs
  | cs => cs

/-- What remains after the digits of an identifier. -/
def afterIdentifier? (cs : List Char) : Option (List Char) := do
  let cs ← afterGroup? 8 cs
  let cs ← afterGroup? 4 (withoutHyphen cs)
  let cs ← afterGroup? 4 (withoutHyphen cs)
  let cs ← afterGroup? 4 (withoutHyphen cs)
  afterGroup? 12 (withoutHyphen cs)

/-- What may remain after a point and digits. -/
def afterFraction : List Char → List (List Char)
  | '.' :: cs => afterSome Char.isDigit cs
  | _ => []

/-- What may remain after a slot. -/
def afterSlot (kind : SlotKind) (cs : List Char) : List (List Char) :=
  match kind with
  | .segment => afterSome (· != '/') cs
  | .rest => cs :: afterSome (· != '\n') cs
  | .digits => afterSome Char.isDigit cs
  | .decimal =>
    let whole := afterSome Char.isDigit cs
    whole ++ whole.flatMap afterFraction
  | .identifier => (afterIdentifier? cs).toList

/-- Whether some characters have the form of a pattern. A line end behind them changes nothing. -/
def accepts : PathPattern → List Char → Bool
  | [], cs => cs.isEmpty || cs == ['\n']
  | .literal c :: parts, cs =>
    match cs with
    | d :: rest => c == d && accepts parts rest
    | [] => false
  | .slot kind :: parts, cs => (afterSlot kind cs).any (accepts parts)

end PathPattern

end RelyingParty
