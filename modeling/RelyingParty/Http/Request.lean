import RelyingParty.Http.Cookie
import RelyingParty.Http.Exchange
import RelyingParty.Http.Multipart
import RelyingParty.Url.Query

set_option autoImplicit false

/-! # Requests

The parameters of a request are the fields of its query and, when a form is posted, the fields of
its body after them. The content type decides whether there is a form: it has to start with the name
of one of the two kinds, and the body is read only if it is exactly one of them. -/

namespace RelyingParty

/-- A request as it arrives. -/
structure Request where
  method : String
  scheme : String
  /-- The host that serves the request; the request may name another one in a header. -/
  server : String
  path : String
  query : Bytes
  headers : List (String × String)
  body : Bytes

namespace Request

/-- The content type of a form whose fields are written like a query. -/
def urlencodedType : String := "application/x-www-form-urlencoded"

/-- The content type of a form whose fields come in parts. -/
def multipartType : String := "multipart/form-data"

/-- Whether a text starts with another. -/
def startsWith (s start : String) : Bool := start.toList.isPrefixOf s.toList

/-- The content type a request states. -/
def contentType (r : Request) : String := (Http.headerValues r.headers "content-type").headD ""

/-- Whether a form is posted. -/
def postsForm (r : Request) : Bool :=
  r.method == "POST"
    && (startsWith r.contentType urlencodedType || startsWith r.contentType multipartType)

/-- The fields of text like a query, whose bytes are read one by one. -/
def fieldsOfBytes (bytes : Bytes) : List (String × String) := Query.decode (Text.ofLatin1 bytes)

/-- There must not be more fields than are read. -/
def checkCount (fields : List (String × String)) :
    Except Multipart.BodyFailure (List (String × String)) :=
  if Multipart.maxParts < fields.length then .error (.refused .tooManyFields) else .ok fields

/-- The fields of the body. -/
def bodyFields (r : Request) : Except Multipart.BodyFailure (List (String × String)) :=
  let (kind, parameters) := Http.parameters r.contentType
  if !r.postsForm then .ok []
  else if kind = multipartType then Multipart.fields parameters r.body
  else if kind = urlencodedType then checkCount (fieldsOfBytes r.body)
  else .ok []

/-- The request as the callback sees it. -/
def exchange (r : Request) : Except Multipart.BodyFailure Exchange :=
  r.bodyFields.map fun fields =>
    { parameters := Parameters.ofFields (fieldsOfBytes r.query ++ fields)
      cookies := Cookie.ofHeaders (Http.headerValues r.headers "cookie") }

end Request

end RelyingParty
