import RelyingParty.Text.Quoted
import RelyingParty.Url.Address

set_option autoImplicit false

/-! # URLs

A URL is split into a scheme, an authority, a path, a query and a fragment. The text is read
forgivingly: control characters and spaces before it are dropped, and tabs and line ends anywhere in
it. What is refused are brackets in the authority that do not enclose an address, and characters
that stand for a delimiter once they are brought into compatibility form.

`toText` joins the parts again; an empty query or fragment leaves no mark. -/

namespace RelyingParty

/-- The parts of a URL. -/
structure Url where
  scheme : String
  authority : String
  path : String
  query : String
  fragment : String
  deriving DecidableEq, Repr

/-- Why a text is not a URL. -/
inductive UrlError where
  /-- The brackets of the authority do not pair up, or text stands beside them. -/
  | brackets
  /-- The text between the brackets is not an address. -/
  | address (host : String)
  /-- The address starts like one of a later version, and is not one. -/
  | futureAddress
  /-- An IPv4 address stands between brackets. -/
  | bracketedIPv4
  /-- A character of the authority stands for a delimiter. -/
  | compatibility (authority : String)
  /-- A byte of the URL is no character. -/
  | byte (value : UInt8) (place : Nat)
  /-- Characters of a query cannot be written as bytes of the URL's kind: those from a place on, as
      far as they follow one another. -/
  | characters (found : List Char) (place : Nat)
  deriving DecidableEq, Repr

/-- Characters that cannot be written, in a message. -/
def unwritableText : List Char → Nat → String
  | [c], place =>
    "character '" ++ String.ofList (Text.codePointEscape c.toNat) ++ "' in position "
      ++ toString place
  | cs, place =>
    "characters in position " ++ toString place ++ "-" ++ toString (place + cs.length - 1)

/-- The wording of an error. -/
def UrlError.message : UrlError → String
  | .brackets => "Invalid IPv6 URL"
  | .address host => Text.quoted host ++ " does not appear to be an IPv4 or IPv6 address"
  | .futureAddress => "IPvFuture address is invalid"
  | .bracketedIPv4 => "An IPv4 address cannot be in brackets"
  | .compatibility authority =>
    "netloc '" ++ authority ++ "' contains invalid characters under NFKC normalization"
  | .byte value place =>
    "'ascii' codec can't decode byte 0x" ++ String.ofList (Text.hexDigits 2 value.toNat)
      ++ " in position " ++ toString place ++ ": ordinal not in range(128)"
  | .characters found place =>
    "'ascii' codec can't encode " ++ unwritableText found place ++ ": ordinal not in range(128)"

namespace Url

/-! ## Characters -/

/-- A character of a scheme. -/
def isSchemeChar (c : Char) : Bool :=
  c.isAlphanum || c == '+' || c == '-' || c == '.'

/-- The characters whose compatibility form holds one of the delimiters `/ ? # @ :`. -/
def delimiterForms : List Nat :=
  [0x2100, 0x2101, 0x2105, 0x2106, 0xFF0F, 0x2047, 0x2048, 0x2049, 0xFE16, 0xFE56, 0xFF1F, 0xFE5F,
   0xFF03, 0xFE6B, 0xFF20, 0x2A74, 0xFE13, 0xFE55, 0xFF1A]

/-- The characters that are read: no control character or space at the start, no tab or line end. -/
def cleaned (s : String) : List Char :=
  (s.toList.dropWhile (·.toNat ≤ 0x20)).filter fun c => c != '\t' && c != '\r' && c != '\n'

/-! ## Splitting -/

/-- The scheme, in lower case, and what follows its colon; there is none if the text before the
    first colon is not a scheme. -/
def takeScheme (cs : List Char) : List Char × List Char :=
  match cut? ':' cs with
  | some (c :: before, after) =>
    if c.isAlpha && before.all isSchemeChar then ((c :: before).map Char.toLower, after)
    else ([], cs)
  | _ => ([], cs)

/-- A character that ends the authority. -/
def endsAuthority (c : Char) : Bool := c == '/' || c == '?' || c == '#'

/-- The authority after two slashes, and what follows it. -/
def takeAuthority : List Char → List Char × List Char
  | '/' :: '/' :: cs => (cs.takeWhile (!endsAuthority ·), cs.dropWhile (!endsAuthority ·))
  | cs => ([], cs)

/-- The text after the last occurrence of a character; all of it if there is none. -/
def afterLast (separator : Char) (cs : List Char) : List Char :=
  (cs.reverse.takeWhile (· != separator)).reverse

/-- The text between brackets must be an address. -/
def checkHost (host : List Char) : Except UrlError Unit :=
  if host.head? = some 'v' then
    if isFutureAddress host then .ok () else .error .futureAddress
  else if isIPv4 host then .error .bracketedIPv4
  else if isIPv6 host then .ok ()
  else .error (.address (String.ofList host))

/-- The host of an authority in which both brackets occur. -/
def bracketedHost (authority : List Char) : Except UrlError (List Char) :=
  let hostAndPort := afterLast '@' authority
  match cut? '[' hostAndPort with
  | some (before, bracketed) =>
    if !before.isEmpty then .error .brackets
    else
      match cut? ']' bracketed with
      | none => .ok bracketed
      | some (host, port) =>
        if port.isEmpty || port.head? = some ':' then .ok host else .error .brackets
  | none => .ok (hostAndPort.takeWhile (· != ':'))

/-- The checks on an authority. -/
def checkAuthority (authority : List Char) : Except UrlError Unit := do
  let opens := authority.contains '['
  let closes := authority.contains ']'
  if opens != closes then throw .brackets
  if opens && closes then checkHost (← bracketedHost authority)
  if authority.any (fun c => delimiterForms.contains c.toNat) then
    throw (.compatibility (String.ofList authority))

/-- The text before a character, and the text after it; without the character, nothing follows. -/
def divide (separator : Char) (cs : List Char) : List Char × List Char :=
  (cut? separator cs).getD (cs, [])

/-- The parts of a URL. -/
def split (s : String) : Except UrlError Url := do
  let (scheme, rest) := takeScheme (cleaned s)
  let (authority, rest) := takeAuthority rest
  checkAuthority authority
  let (rest, fragment) := divide '#' rest
  let (path, query) := divide '?' rest
  return {
    scheme := String.ofList scheme
    authority := String.ofList authority
    path := String.ofList path
    query := String.ofList query
    fragment := String.ofList fragment }

/-- The parts of a URL that is given as bytes. -/
def splitBytes (bytes : Bytes) : Except UrlError Url :=
  match Text.ofAscii? bytes with
  | some s => split s
  | none =>
    let place := (bytes.takeWhile (· < 0x80)).length
    .error (.byte (bytes.getD place 0) place)

/-! ## Joining -/

/-- The schemes whose URLs have an authority, even an empty one. -/
def schemesWithAuthority : List String :=
  ["ftp", "http", "gopher", "nntp", "telnet", "imap", "wais", "file", "mms", "https", "shttp",
   "snews", "prospero", "rtsp", "rtspu", "rsync", "svn", "svn+ssh", "sftp", "nfs", "git",
   "git+ssh", "ws", "wss"]

/-- Whether a path starts with some characters. -/
def startsWith (start : List Char) (path : String) : Bool := start.isPrefixOf path.toList

/-- The authority and the path. -/
def locationText (u : Url) : String :=
  if u.authority != ""
      || (schemesWithAuthority.contains u.scheme && !startsWith ['/', '/'] u.path) then
    "//" ++ u.authority ++ (if u.path != "" && !startsWith ['/'] u.path then "/" else "") ++ u.path
  else u.path

/-- The text of a URL. -/
def toText (u : Url) : String :=
  (if u.scheme = "" then "" else u.scheme ++ ":") ++ u.locationText
    ++ (if u.query = "" then "" else "?" ++ u.query)
    ++ (if u.fragment = "" then "" else "#" ++ u.fragment)

/-- A URL of the web: its scheme is `http` or `https`, and it names a host. -/
def isWeb (u : Url) : Bool := (u.scheme == "http" || u.scheme == "https") && u.authority != ""

end Url

end RelyingParty
