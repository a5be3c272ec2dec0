import RelyingParty.Json.Reader

set_option autoImplicit false

/-! # Documents of the provider

The provider publishes its metadata and its keys as JSON documents at fixed addresses. `Remote` is
the provider seen from here: for each address the answers it will give, in order, of which the last
one stays, and the addresses asked for so far.

`fetch` asks once. It fails if there is no answer, if the answer's status is an error, or if its
body is not JSON.

The encoding of a body is told by the zeros among its first four bytes, since a document starts with
two characters below U+0080. A body that is no text in that encoding is read as UTF-8 all the same.
-/

namespace RelyingParty

/-- Why a document was not obtained. -/
inductive FetchError where
  /-- Nothing answers at the address. -/
  | unreachable
  /-- The status of the answer says that it is an error. -/
  | status (code : Int)
  /-- The body of the answer is not read. -/
  | body (cause : Json.ReadError)
  deriving DecidableEq, Repr

/-- An answer. -/
structure Answer where
  status : Int
  body : String
  deriving DecidableEq, Repr

/-- Whether a status is an error of either side. -/
def Answer.isError (a : Answer) : Bool := 400 ≤ a.status && a.status < 600

/-- The answers to come, and the requests made. -/
structure Remote where
  answers : Entries String (List Answer)
  requests : List String
  deriving Repr, Inhabited

namespace Remote

/-- The next answer at an address, and the answers after it; the last one is given again and
    again. -/
def next? (r : Remote) (address : String) : Option (Answer × List Answer) :=
  match r.answers.get? address with
  | some [a] => some (a, [a])
  | some (a :: rest) => some (a, rest)
  | _ => none

/-- The encoding of a body whose first four bytes have zeros in some places, if it is one that is
    known. -/
def encodingOfZeros? : List Bool → Option Encoding
  | [false, false, false, false] => some .utf8
  | [true, false, true, false] => some .utf16Big
  | [false, true, false, true] => some .utf16Little
  | [true, true, true, false] => some .utf32Big
  | [false, true, true, true] => some .utf32Little
  | _ => none

/-- The encoding of a body; a short one tells nothing about it. -/
def encodingOf? (body : Bytes) : Option Encoding :=
  if body.length ≤ 3 then some .utf8
  else if Encoding.signature.isPrefixOf body then some .utf8Signed
  else encodingOfZeros? ((body.take 4).map (· == 0))

/-- The document of a body. -/
def documentOf (body : String) : Except Json.ReadError Value :=
  match (encodingOf? (Text.utf8 body)).bind (·.decode? (Text.utf8 body)) with
  | some text => Json.read text
  | none => Json.read body

/-- The document an answer holds. -/
def document (a : Answer) : Except FetchError Value :=
  if a.isError then .error (.status a.status) else (documentOf a.body).mapError .body

/-- Ask for the document at an address. -/
def fetch (r : Remote) (address : String) : Except FetchError Value × Remote :=
  let asked := { r with requests := r.requests ++ [address] }
  match r.next? address with
  | none => (.error .unreachable, asked)
  | some (a, rest) => (document a, { asked with answers := r.answers.insert address rest })

/-- Every fetch is one request. -/
@[simp] theorem requests_fetch (r : Remote) (address : String) :
    (r.fetch address).2.requests = r.requests ++ [address] := by
  unfold fetch
  split <;> rfl

end Remote

end RelyingParty
