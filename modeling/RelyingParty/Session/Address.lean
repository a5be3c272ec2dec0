import RelyingParty.Number.Decimal
import RelyingParty.Session.Index
import RelyingParty.Url.Stated

set_option autoImplicit false

/-! # Addresses of shared stores

A shared index is kept in a store that is named by a URL. Its scheme says how the store is reached,
its query holds options of the connection, and its authority may name a port. `StoreAddress.check`
finds what is wrong with an address; nothing is connected. -/

namespace RelyingParty

/-- Why an address names no store. -/
inductive AddressError where
  /-- There is no address. -/
  | missing
  /-- The address has none of the schemes. -/
  | scheme
  /-- The address is no URL. -/
  | url (cause : UrlError)
  /-- An option has a value of another kind than it needs. -/
  | option (name : String)
  /-- The port is not a number. -/
  | portText (text : String)
  /-- The port has too many digits. -/
  | portDigits (digits : Nat)
  /-- There is no such port. -/
  | portRange
  /-- The number of connections is negative. -/
  | connections
  deriving DecidableEq, Repr

namespace StoreAddress

/-- The schemes of addresses. -/
def schemes : List String := ["redis://", "rediss://", "unix://"]

/-- The scheme of stores on the same machine, which are not reached through a port. -/
def localScheme : String := "unix"

/-- The largest port. -/
def maxPort : Nat := 65535

end StoreAddress

/-- The wording of an error. -/
def AddressError.message : AddressError → String
  | .missing => "redis_url or client is required"
  | .scheme =>
    "Redis URL must specify one of the following schemes ("
      ++ ", ".intercalate StoreAddress.schemes ++ ")"
  | .url cause => cause.message
  | .option name => "Invalid value for '" ++ name ++ "' in connection URL."
  | .portText text => "Port could not be cast to integer value as " ++ Text.quoted text
  | .portDigits digits => tooManyDigitsMessage digits
  | .portRange => "Port out of range 0-65535"
  | .connections => "\"max_connections\" must be a positive integer"

namespace StoreAddress

/-! ## Options -/

/-- The option that limits the number of connections. -/
def connectionsOption : String := "max_connections"

/-- The options that are whole numbers. -/
def wholeOptions : List String := ["db", connectionsOption, "health_check_interval"]

/-- The options that are numbers of any kind. -/
def numberOptions : List String := ["socket_timeout", "socket_connect_timeout", "timeout"]

/-- The options of a query: the first value of each name that is not empty. -/
def optionsOf (query : String) : List (String × String) :=
  let given := (Query.decode query).filter (·.2 != "")
  (given.foldl (fun options option =>
    if Entries.contains options option.1 then options else options ++ [option]) [])

/-- The value of an option, which is decoded twice. -/
def optionValue (written : String) : String :=
  Text.ofUtf8Lenient (Query.percentDecode (Text.utf8 written))

/-- Whether an option has a value of the kind it needs. -/
def isUsable (option : String × String) : Bool :=
  let value := optionValue option.2
  if wholeOptions.contains option.1 then (Integer.ofText? value).isSome
  else if numberOptions.contains option.1 then Decimal.isNumeral value
  else true

/-- All options have to be usable. -/
def checkOptions (options : List (String × String)) : Except AddressError Unit :=
  match options.find? (!isUsable ·) with
  | some option => .error (.option option.1)
  | none => .ok ()

/-- The number of connections must not be negative. -/
def checkConnections (options : List (String × String)) : Except AddressError Unit :=
  match (Entries.get? options connectionsOption).bind fun v => Integer.ofText? (optionValue v) with
  | some n => if n < 0 then .error .connections else .ok ()
  | none => .ok ()

/-! ## Ports -/

/-- The text after the colon that follows the host of an authority. -/
def portText (authority : String) : List Char :=
  let hostAndPort := Url.afterLast '@' authority.toList
  match Url.cut? '[' hostAndPort with
  | some (_, bracketed) => (Url.divide ':' (Url.divide ']' bracketed).2).2
  | none => (Url.divide ':' hostAndPort).2

/-- The port of an authority has to be one, if it is there. -/
def checkPort (authority : String) : Except AddressError Unit :=
  let text := portText authority
  if text.all fun c => (Text.asciiDigit? c).isSome then
    if Integer.maxDigits < text.length then .error (.portDigits text.length)
    else if maxPort < Integer.ofDigits (text.filterMap Text.asciiDigit?) then .error .portRange
    else .ok ()
  else .error (.portText (String.ofList text))

/-! ## Addresses -/

/-- An address has to name a store. -/
def check (address : String) : Except AddressError Unit := do
  unless schemes.any (fun scheme => scheme.toList.isPrefixOf address.toList) do throw .scheme
  let parts ← (Url.split address).mapError .url
  let options := optionsOf parts.query
  checkOptions options
  unless parts.scheme == localScheme do checkPort parts.authority
  checkConnections options

/-- An address that may be any value. -/
def checkValue (address : Value) : Except (Failure AddressError) Unit :=
  if !address.truthy then .error (.refused .missing)
  else
    match address with
    | .text s => (check s).mapError .refused
    | .bytes _ => .error (.fault .wrongType)
    | _ => .error (.fault .missingOperation)

end StoreAddress

/-- An index in the store at an address. -/
def SharedIndex.atAddress (address space ttl : Value) :
    Except (Failure AddressError) SharedIndex :=
  (StoreAddress.checkValue address).map fun _ => ⟨space, ttl⟩

end RelyingParty
