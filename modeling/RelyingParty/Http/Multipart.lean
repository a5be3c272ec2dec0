import RelyingParty.Fault
import RelyingParty.Http.Header
import RelyingParty.Text.Encoding

set_option autoImplicit false

/-! # Bodies in several parts

A body may come in parts between delimiter lines. Each part has headers, one of which names the
field it holds; a part that is a file is left out. The reader looks at one byte after the other:
`step` says where it stands after a byte, and `fields` are the fields of the parts that were closed
by a delimiter. There are limits to the number of parts, and to the size of those that are no files.
-/

namespace RelyingParty.Multipart

/-! ## Where the reader stands -/

/-- Why a body is not read. -/
inductive BodyError where
  /-- The content type states no delimiter. -/
  | noBoundary
  /-- A part does not name its field. -/
  | noFieldName
  /-- There are more fields than are read. -/
  | tooManyFields
  /-- There are more files than are taken. -/
  | tooManyFiles
  /-- The content of a field is larger than what is kept. -/
  | tooLarge
  deriving DecidableEq, Repr

/-- The most fields, and the most files, of a body. -/
def maxParts : Nat := 1000

/-- The most bytes of a field. -/
def maxFieldSize : Nat := 1024 * 1024

/-- The most headers of a part. -/
def maxHeaders : Nat := 8

/-- The most bytes of a header. -/
def maxHeaderSize : Nat := 4096

/-- The wording of an error. -/
def BodyError.message : BodyError → String
  | .noBoundary => "Missing boundary in multipart."
  | .noFieldName => "The Content-Disposition header field \"name\" must be provided."
  | .tooManyFields =>
    "Too many fields. Maximum number of fields is " ++ toString maxParts ++ "."
  | .tooManyFiles => "Too many files. Maximum number of files is " ++ toString maxParts ++ "."
  | .tooLarge => "Part exceeded maximum size of " ++ toString (maxFieldSize / 1024) ++ "KB."

/-- What ends the reading of a body: it is refused, or there is a fault. -/
abbrev BodyFailure := Failure BodyError

/-- A byte stands where another one has to. -/
def malformed {α : Type} : Except BodyFailure α := .error (.fault .malformedBody)

/-- Where the reader stands. What was read last comes first. -/
inductive Position where
  /-- Before the first delimiter. -/
  | before
  /-- In the first delimiter, of which some bytes are to come. -/
  | delimiter (rest : Bytes)
  /-- After one hyphen behind the first delimiter. -/
  | closing
  /-- At the line end behind the first delimiter. -/
  | opening
  /-- In the name of a header. -/
  | name (read : Bytes)
  /-- Before the value of a header. -/
  | valueStart (name : Bytes)
  /-- In the value of a header. -/
  | value (name read : Bytes)
  /-- At the line end behind a header. -/
  | headerEnd
  /-- At the line end behind the headers. -/
  | headersEnd
  /-- In the content of a part; without a field, the part is a file. -/
  | content (field : Option String) (read : Bytes)
  /-- Behind the last delimiter. -/
  | done
  deriving Repr

/-- The reader: where it stands, the number of headers of the part and how it describes itself, and
    the fields and the number of files read so far. -/
structure Reader where
  position : Position := .before
  headers : Nat := 0
  disposition : Option Bytes := none
  fields : List (String × String) := []
  files : Nat := 0

/-! ## Steps -/

def lineFeed : UInt8 := 10
def carriageReturn : UInt8 := 13
def space : UInt8 := 32
def hyphen : UInt8 := 45
def colon : UInt8 := 58

/-- A byte of a header's name. -/
def isTokenByte (b : UInt8) : Bool :=
  let c := Char.ofNat b.toNat
  b < 0x80 && (c.isAlphanum || "!#$%&'*+-.^_`|~".toList.contains c)

/-- A delimiter as it stands between parts. -/
def delimiterLine (boundary : Bytes) : Bytes :=
  carriageReturn :: lineFeed :: hyphen :: hyphen :: boundary

/-- Text in an encoding; bytes that are not text in it are read one by one. -/
def decodeText (encoding : Option Encoding) (bytes : Bytes) : String :=
  ((encoding.bind fun e => e.decode? bytes)).getD (Text.ofLatin1 bytes)

/-- The bytes of a text whose characters are bytes. -/
def rawBytes (s : String) : Bytes := s.toList.map fun c => UInt8.ofNat c.toNat

/-- The field of a part; a file has none. -/
def fieldOf (encoding : Option Encoding) (disposition : Option Bytes) :
    Except BodyFailure (Option String) :=
  let options := (Http.parameters (Text.ofLatin1 (disposition.getD []))).2
  match options.get? "name" with
  | none => .error (.refused .noFieldName)
  | some name =>
    if options.contains "filename" then .ok none
    else .ok (some (decodeText encoding (rawBytes name)))

/-- The content of a field must not be too large. -/
def checkSize (field : Option String) (content : Bytes) : Except BodyFailure Unit :=
  if field.isSome && maxFieldSize < content.length then .error (.refused .tooLarge) else .ok ()

/-- Close a part. -/
def Reader.close (r : Reader) (encoding : Option Encoding) (field : Option String)
    (content : Bytes) (next : Position) : Except BodyFailure Reader :=
  let read := match field with
    | some name => [(name, decodeText encoding content)]
    | none => []
  (checkSize field content).map fun _ =>
    { r with position := next, headers := 0, disposition := none, fields := r.fields ++ read }

/-- Open the content of a part. -/
def Reader.openContent (r : Reader) : Option String → Except BodyFailure Reader
  | none =>
    if maxParts ≤ r.files then .error (.refused .tooManyFiles)
    else .ok { r with position := .content none [], files := r.files + 1 }
  | some name =>
    if maxParts ≤ r.fields.length then .error (.refused .tooManyFields)
    else .ok { r with position := .content (some name) [] }

/-- Keep the header that says how a part describes itself; there may not be too many headers, nor one
    that is too large. -/
def Reader.keepHeader (r : Reader) (name value : Bytes) : Except BodyFailure Reader :=
  if maxHeaders ≤ r.headers || maxHeaderSize < name.length + value.length then malformed
  else
    let disposition :=
      if Http.lowered (Text.ofLatin1 name) = "content-disposition" then some value
      else r.disposition
    .ok { r with headers := r.headers + 1, disposition }

/-- The step after a byte of a part's content: a delimiter closes the part. -/
def Reader.contentStep (r : Reader) (boundary : Bytes) (encoding : Option Encoding)
    (field : Option String) (read : Bytes) : Except BodyFailure Reader :=
  let mark := (delimiterLine boundary).reverse
  if (hyphen :: hyphen :: mark).isPrefixOf read then
    r.close encoding field (read.drop (mark.length + 2)).reverse .done
  else if (lineFeed :: carriageReturn :: mark).isPrefixOf read then
    r.close encoding field (read.drop (mark.length + 2)).reverse (.name [])
  else .ok { r with position := .content field read }

/-- Move on to a position if a byte is the one that has to come. -/
def Reader.expect (r : Reader) (expected found : UInt8) (next : Position) :
    Except BodyFailure Reader :=
  if found = expected then .ok { r with position := next } else malformed

/-- The step in the first delimiter. -/
def Reader.delimiterStep (r : Reader) (b : UInt8) : Bytes → Except BodyFailure Reader
  | expected :: rest => r.expect expected b (.delimiter rest)
  | [] =>
    if b = hyphen then .ok { r with position := .closing }
    else r.expect carriageReturn b .opening

/-- The step in the name of a header. An empty name ends the headers. -/
def Reader.nameStep (r : Reader) (b : UInt8) (read : Bytes) : Except BodyFailure Reader :=
  if b = carriageReturn && read.isEmpty then .ok { r with position := .headersEnd }
  else if b = colon then
    if read.isEmpty then malformed else .ok { r with position := .valueStart read.reverse }
  else if isTokenByte b then .ok { r with position := .name (b :: read) }
  else malformed

/-- The step in the value of a header. -/
def Reader.valueStep (r : Reader) (b : UInt8) (name read : Bytes) : Except BodyFailure Reader :=
  if b = carriageReturn then
    (r.keepHeader name read.reverse).map fun r => { r with position := .headerEnd }
  else .ok { r with position := .value name (b :: read) }

/-- One step. -/
def step (boundary : Bytes) (encoding : Option Encoding) (r : Reader) (b : UInt8) :
    Except BodyFailure Reader :=
  match r.position with
  | .before =>
    if b = carriageReturn || b = lineFeed then .ok r
    else r.delimiterStep b (hyphen :: hyphen :: boundary)
  | .delimiter rest => r.delimiterStep b rest
  | .closing => r.expect hyphen b .done
  | .opening => r.expect lineFeed b (.name [])
  | .name read => r.nameStep b read
  | .valueStart name => if b = space then .ok r else r.valueStep b name []
  | .value name read => r.valueStep b name read
  | .headerEnd => r.expect lineFeed b (.name [])
  | .headersEnd =>
    if b = lineFeed then
      (fieldOf encoding r.disposition).bind r.openContent
    else malformed
  | .content field read => r.contentStep boundary encoding field (b :: read)
  | .done => .ok r

/-! ## Bodies -/

/-- The fields at the end of a body. The content of a part that is not closed is left out, but it
    must not be too large either. -/
def Reader.finish (r : Reader) : Except BodyFailure (List (String × String)) :=
  match r.position with
  | .content field read => (checkSize field read).map fun _ => r.fields
  | _ => .ok r.fields

/-- The fields of a body whose content type has some parameters. -/
def fields (parameters : Entries String String) (body : Bytes) :
    Except BodyFailure (List (String × String)) :=
  match parameters.get? "boundary" with
  | none => .error (.refused .noBoundary)
  | some boundary =>
    let encoding := Encoding.ofName? ((parameters.get? "charset").getD "utf-8")
    (body.foldlM (step (rawBytes boundary) encoding) {}).bind Reader.finish

end RelyingParty.Multipart
