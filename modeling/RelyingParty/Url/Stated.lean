import RelyingParty.Fault
import RelyingParty.Url.Query
import RelyingParty.Url.Basic
import RelyingParty.Value.Display

set_option autoImplicit false

/-! # URLs that come as values

The callback URL of a client may be replaced by a value of any type. Text and bytes are URLs; a
value of another type does not have the operations of one, and a value that can change is not even
looked at.

`isWebValue` tells whether a value is a URL of the web, which only text can be. `withField` adds a
field to the query of a URL. -/

namespace RelyingParty.Url

/-- The fault of a value that is no URL. -/
def faultOf (v : Value) : Fault := if v.hashable then .missingOperation else .wrongType

/-- Whether a value is a URL of the web. -/
def isWebValue : Value → Except (Failure UrlError) Bool
  | .text s => ((split s).map isWeb).mapError .refused
  | .bytes b => ((splitBytes b).map fun _ => false).mapError .refused
  | v => .error (.fault (faultOf v))

/-! ## Adding a field -/

/-- The bytes of a text that has to be ASCII. -/
def asciiOf (s : String) : Except UrlError Bytes :=
  match Text.bytesBelow? 0x80 s with
  | some bytes => .ok bytes
  | none =>
    let isAscii (c : Char) : Bool := c.toNat < 0x80
    let before := s.toList.takeWhile isAscii
    .error (.characters ((s.toList.drop before.length).takeWhile (!isAscii ·)) before.length)

/-- The names of the fields of a query, which have to be ASCII like their values. -/
def asciiNames : List (String × String) → Except UrlError (List Bytes)
  | [] => .ok []
  | (name, value) :: rest => do
    let name ← asciiOf name
    let _ ← asciiOf value
    let names ← asciiNames rest
    return name :: names

/-- The bytes of a name or a value in a query. -/
def componentBytes : Value → Bytes
  | .bytes b => b
  | v => Text.utf8 v.display

/-- A URL in text with a field added to its query, unless the query has a field of that name. -/
def withFieldText (url : String) (name value : Value) : Except UrlError String := do
  let parts ← split url
  let fields := Query.decode parts.query
  if fields.any (fun field => name.same (.text field.1)) then return url
  let query := Query.encodeWith fields (componentBytes name) (componentBytes value)
  return { parts with query }.toText

/-- Whether the query of a URL in bytes has a field of a name. -/
def bytesHaveField (url : Bytes) (name : Value) : Except UrlError Bool := do
  let parts ← splitBytes url
  let names ← asciiNames (Query.decode parts.query)
  return names.any fun found => name.same (.bytes found)

/-- A URL with a field added to its query, unless the query has a field of that name. Nothing can be
    added to a URL in bytes, because fields are written as text. -/
def withField (url name value : Value) : Except (Failure UrlError) Value :=
  match url with
  | .text s => ((withFieldText s name value).map .text).mapError .refused
  | .bytes b =>
    match bytesHaveField b name with
    | .ok true => .ok url
    | .ok false => .error (.fault .wrongType)
    | .error cause => .error (.refused cause)
  | v => .error (.fault (faultOf v))

end RelyingParty.Url
