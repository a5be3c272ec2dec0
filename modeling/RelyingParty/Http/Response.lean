import RelyingParty.Fault
import RelyingParty.Http.Header
import RelyingParty.Json.Printer

set_option autoImplicit false

/-! # Responses

A response has a status, headers under names in lower case, and a body the length of which is among
the headers. Header text is made of bytes, so a character above U+00FF cannot be sent. -/

namespace RelyingParty

/-- A response as it is sent. -/
structure Response where
  status : Nat
  headers : Entries String String
  body : String
  deriving DecidableEq, Repr

namespace Response

/-- A response with a body. -/
def withBody (status : Nat) (body : String) (headers : Entries String String) : Response :=
  { status, body
    headers := ("content-length", toString (Text.utf8 body).length) :: headers }

/-- A response with a JSON text as its body. -/
def ofJsonText (status : Nat) (body : String) (headers : Entries String String) : Response :=
  withBody status body (headers ++ [("content-type", "application/json")])

/-- A response with a JSON object whose members are texts. -/
def ofTexts (status : Nat) (members : List (String × String))
    (headers : Entries String String) : Response :=
  let field (m : String × String) :=
    Json.stringText false m.1 ++ ":" ++ Json.stringText false m.2
  ofJsonText status ("\x7b" ++ ",".intercalate (members.map field) ++ "\x7d") headers

/-- Whether text can be sent in a header. -/
def isSendable (s : String) : Bool := s.toList.all (·.toNat < 0x100)

/-- Set headers one by one; those of the same name are replaced. -/
def setHeaders (r : Response) : List (String × String) → Except Fault Response
  | [] => .ok r
  | (name, value) :: rest =>
    if isSendable name && isSendable value then
      setHeaders { r with headers := r.headers.insert (Http.lowered name) value } rest
    else .error .notEncodable

end Response

end RelyingParty
