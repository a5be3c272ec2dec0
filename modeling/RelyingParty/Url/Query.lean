import RelyingParty.Text.Quoted
import RelyingParty.Url.Address

set_option autoImplicit false

/-! # Query strings

A query holds named values as `name=value` with `&` between them. Names and values are written byte
by byte in UTF-8: unreserved characters as they are, a space as `+`, any other byte as a percent
sign and two hexadecimal digits. Reading is forgiving: a percent sign without two digits stands for
itself, bytes that are not UTF-8 become U+FFFD, and a field without `=` has an empty value. -/

namespace RelyingParty.Query

open Url (splitOn cut?)

/-! ## Writing -/

/-- A byte that is written as its character. -/
def isUnreserved (b : UInt8) : Bool :=
  let c := Char.ofNat b.toNat
  b < 0x80 && (c.isAlphanum || c == '_' || c == '.' || c == '-' || c == '~')

/-- One byte of a component. -/
def encodeByte (b : UInt8) : List Char :=
  if isUnreserved b then [Char.ofNat b.toNat]
  else if b = 0x20 then ['+']
  else '%' :: (Text.hexDigits 2 b.toNat).map Char.toUpper

/-- A name or a value, by its bytes. -/
def encodeBytes (bytes : Bytes) : List Char := bytes.flatMap encodeByte

/-- A name or a value. -/
def encodeComponent (s : String) : List Char := encodeBytes (Text.utf8 s)

/-- One field. -/
def encodeField (field : String × String) : List Char :=
  encodeComponent field.1 ++ '=' :: encodeComponent field.2

/-- Texts with a separator between them. -/
def separated (separator : Char) : List (List Char) → List Char
  | [] => []
  | [part] => part
  | part :: parts => part ++ separator :: separated separator parts

/-- A query string. -/
def encode (fields : List (String × String)) : String :=
  String.ofList (separated '&' (fields.map encodeField))

/-- A query string with one more field, the name and the value of which are given by their bytes. -/
def encodeWith (fields : List (String × String)) (name value : Bytes) : String :=
  let last := encodeBytes name ++ '=' :: encodeBytes value
  String.ofList (separated '&' (fields.map encodeField ++ [last]))

/-! ## Reading -/

/-- The bytes that percent signs and pairs of digits stand for. -/
def percentDecode : Bytes → Bytes
  | [] => []
  | 0x25 :: a :: b :: rest =>
    match Json.hexValue? (Char.ofNat a.toNat), Json.hexValue? (Char.ofNat b.toNat) with
    | some x, some y => UInt8.ofNat (16 * x + y) :: percentDecode rest
    | _, _ => 0x25 :: percentDecode (a :: b :: rest)
  | b :: rest => b :: percentDecode rest

/-- A name or a value. -/
def decodeComponent (cs : List Char) : String :=
  let spaced := cs.map fun c => if c = '+' then ' ' else c
  Text.ofUtf8Lenient (percentDecode (Text.utf8 (String.ofList spaced)))

/-- One field; without `=` its value is empty. -/
def decodeField (cs : List Char) : String × String :=
  match cut? '=' cs with
  | some (name, value) => (decodeComponent name, decodeComponent value)
  | none => (decodeComponent cs, "")

/-- The fields of a query string; empty ones are left out. -/
def decode (s : String) : List (String × String) :=
  ((splitOn '&' s.toList).filter (!·.isEmpty)).map decodeField

end RelyingParty.Query
