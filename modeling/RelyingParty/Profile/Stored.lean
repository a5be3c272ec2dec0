import RelyingParty.Json.Printer
import RelyingParty.Json.Reader
import RelyingParty.Profile.Rights
import RelyingParty.Profile.TypedId

set_option autoImplicit false

/-! # Stored profiles

A profile is stored as the bytes of a JSON object with the typed identifier in it, so that reading
it gives a profile of the same class. Members of enumerations are tagged, because their text alone
would not bring them back; sequences become lists.

`toValue` and `ofValue` go between profiles and objects, `serialize` and `deserialize` between
profiles and bytes. The facts of a stored profile are taken as they are, not added one by one,
because adding would merge again what was merged. What is nested too deep is a fault. -/

namespace RelyingParty

/-- Why a profile is not stored or not read. -/
inductive StorageError where
  /-- A value has no JSON. -/
  | unwritable (cause : Json.WriteError)
  /-- The encoding does not have a character of the JSON. -/
  | unencodable
  /-- The bytes are not JSON in the encoding. -/
  | unreadable
  /-- The JSON is not an object. -/
  | notAnObject
  /-- The version is another one. -/
  | version (found : Value)
  /-- The class is not known. -/
  | profileClass (name : String)
  /-- The profile refuses what is stored. -/
  | refused (cause : ProfileError)
  /-- The enumeration is not known. -/
  | unknownEnumeration (name : Value)
  /-- The enumeration has no such member. -/
  | member (enumeration : Enumeration) (found : Value)
  deriving Repr

/-- The wording of an error. -/
def StorageError.message : StorageError → String
  | .unwritable cause => "Cannot serialize profile: " ++ cause.message
  | .unencodable => "Cannot serialize profile: not in the given encoding"
  | .unreadable => "Cannot deserialize profile: not JSON in the given encoding"
  | .notAnObject => "Serialized profile must be an object"
  | .version found => "Unsupported profile format version: " ++ found.display
  | .profileClass name => "Unknown profile type: " ++ name
  | .refused cause => "Invalid serialized profile: " ++ cause.message
  | .unknownEnumeration name => "Unknown enum type: " ++ name.display
  | .member enumeration found =>
    "Invalid " ++ enumeration.storedName ++ " value: " ++ found.quoted

namespace Profile

/-! ## Values of attributes -/

/-- The key that marks a member of an enumeration. -/
def enumerationTag : String := "__enum__"

/-- A member of an enumeration, tagged. -/
def taggedMember (m : Member) : Value :=
  .dict [(.text enumerationTag, .text m.enumeration.storedName), (.text "value", .text m.text)]

/-- The depth to which stored lists may be nested. -/
def maxListDepth : Nat := 488

mutual

/-- A value as it is stored; sequences may be nested `depth` deep in it. What is inside a mapping
    stays as it is. -/
def storedForm (depth : Nat) : Value → Except Fault Value
  | .member m => .ok (taggedMember m)
  | .list xs | .tuple xs | .set xs | .frozenSet xs =>
    if depth = 0 then .error .tooDeep
    else
      match storedForms (depth - 1) xs with
      | .ok vs => .ok (.list vs)
      | .error cause => .error cause
  | v => .ok v

def storedForms (depth : Nat) : List Value → Except Fault (List Value)
  | [] => .ok []
  | x :: xs =>
    match storedForm depth x with
    | .error cause => .error cause
    | .ok v =>
      match storedForms depth xs with
      | .error cause => .error cause
      | .ok vs => .ok (v :: vs)

end

/-- The member of an enumeration that a value stands for. -/
def memberOf (e : Enumeration) (value : Value) : Except StorageError Value :=
  match value with
  | .text s => (Member.ofText? e s).elim (.error (.member e value)) (.ok <| .member ·)
  | .member m => if m.enumeration = e then .ok (.member m) else .error (.member e value)
  | _ => .error (.member e value)

/-- The member that a tag names. A family of enumerations has none to name. -/
def memberOfTag (enumeration value : Value) : Except (Failure StorageError) Value :=
  match enumeration with
  | .text name =>
    match Enumeration.ofStoredName? name with
    | some e => (memberOf e value).mapError .refused
    | none =>
      if Enumeration.families.contains name then .error (.fault .wrongType)
      else .error (.refused (.unknownEnumeration enumeration))
  | _ => .error (.refused (.unknownEnumeration enumeration))

mutual

/-- The value of a stored form, in which lists may be nested `depth` deep. -/
def ofStoredForm (depth : Nat) : Value → Except (Failure StorageError) Value
  | .dict entries =>
    match Value.field? entries enumerationTag with
    | some enumeration => memberOfTag enumeration (Value.fieldD entries "value")
    | none => .ok (.dict entries)
  | .list xs =>
    if depth = 0 then .error (.fault .tooDeep)
    else
      match ofStoredForms (depth - 1) xs with
      | .ok vs => .ok (.list vs)
      | .error e => .error e
  | v => .ok v

def ofStoredForms (depth : Nat) : List Value → Except (Failure StorageError) (List Value)
  | [] => .ok []
  | x :: xs =>
    match ofStoredForm depth x with
    | .error e => .error e
    | .ok v =>
      match ofStoredForms depth xs with
      | .error e => .error e
      | .ok vs => .ok (v :: vs)

end

/-- Facts as they are stored. -/
def storedFacts : FactStore → Except Fault (List (Value × Value))
  | [] => .ok []
  | (key, value) :: rest => do
    let form ← storedForm maxListDepth value
    let forms ← storedFacts rest
    return (key, form) :: forms

/-- Stored facts, each one of which has to be read. -/
def readFacts : List (Value × Value) → Except (Failure StorageError) FactStore
  | [] => .ok []
  | (key, value) :: rest => do
    let fact ← ofStoredForm maxListDepth value
    let facts ← readFacts rest
    return (key, fact) :: facts

/-! ## Objects -/

/-- The version of the format. -/
def formatVersion : Int := 1

/-- The members of a profile as an object, with its facts as they are stored. -/
def members (p : Profile) (attributes authentication : List (Value × Value)) :
    List (Value × Value) :=
  [(.text "version", .int formatVersion), (.text "typed_id", .text p.typedId),
   (.text "id", Value.ofText? p.id), (.text "merge_attributes", .bool p.merges),
   (.text "attributes", .dict attributes),
   (.text "authentication_attributes", .dict authentication),
   (.text "roles", .list p.roles), (.text "permissions", .list p.permissions),
   (.text "remembered", p.remembered), (.text "linked_id", p.linkedId),
   (.text "client_name", p.clientName)]

/-- A profile as an object. -/
def toValue (p : Profile) : Except Fault Value := do
  let attributes ← storedFacts p.attributes
  let authentication ← storedFacts p.authentication
  return .dict (p.members attributes authentication)

/-- An operation on a profile that is being read. -/
def whileReading : ProfileUpdate → Except (Failure StorageError) Profile
  | (.ok (), p) => .ok p
  | (.error failure, _) => .error (failure.map .refused)

/-- The class a stored profile names. -/
def classOf (members : List (Value × Value)) : Except (Failure StorageError) ProfileClass :=
  let stated := (Value.field? members "typed_id").getD (.text "")
  let name := (divideText typedIdSeparator stated.display).1
  match ProfileClass.ofStoredName? name with
  | some kind => .ok kind
  | none => .error (.refused (.profileClass name))

/-- A collection of rights, where an empty value stands for none. -/
def storedRights (members : List (Value × Value)) (name : String) : Value :=
  let stated := Value.fieldD members name
  if stated.truthy then stated else .list []

/-- The facts under the name of a store; anything but a mapping holds none. -/
def readStore (members : List (Value × Value)) (name : String) :
    Except (Failure StorageError) FactStore :=
  match Value.fieldD members name with
  | .dict entries => readFacts entries
  | _ => .ok []

/-- Read a profile from the members of an object. -/
def ofMembers (members : List (Value × Value)) : Except (Failure StorageError) Profile := do
  let version := Value.fieldD members "version"
  if !version.equals (.int formatVersion) then throw (.refused (.version version))
  let kind ← classOf members
  let merges := ((Value.field? members "merge_attributes").getD (.bool true)).truthy
  let id := Value.fieldD members "id"
  let p : Profile := { kind, merges }
  let p ← if id.isNull then pure p else whileReading (p.setId id)
  let p ← whileReading (p.grantAll .role (storedRights members "roles"))
  let p ← whileReading (p.grantAll .permission (storedRights members "permissions"))
  let attributes ← readStore members "attributes"
  let authentication ← readStore members "authentication_attributes"
  return { p with
    attributes, authentication
    remembered := .bool (Value.fieldD members "remembered").truthy
    linkedId := Value.fieldD members "linked_id"
    clientName := Value.fieldD members "client_name" }

/-- Read a profile from a value, which has to be an object. -/
def ofValue : Value → Except (Failure StorageError) Profile
  | .dict members => ofMembers members
  | _ => .error (.fault .missingOperation)

/-! ## Bytes -/

/-- An object as bytes. -/
def bytesOf (encoding : Encoding) (object : Value) : Except (Failure StorageError) Bytes :=
  match Json.write .stored object with
  | .error .tooDeep => .error (.fault .tooDeep)
  | .error cause => .error (.refused (.unwritable cause))
  | .ok text =>
    match encoding.encode? text with
    | some bytes => .ok bytes
    | none => .error (.refused .unencodable)

/-- A profile as bytes. -/
def serialize (encoding : Encoding) (p : Profile) : Except (Failure StorageError) Bytes :=
  match p.toValue with
  | .error cause => .error (.fault cause)
  | .ok object => bytesOf encoding object

/-- A profile from bytes. -/
def deserialize (encoding : Encoding) (bytes : Bytes) : Except (Failure StorageError) Profile :=
  match Json.readBytes encoding bytes with
  | .ok (.dict members) => ofMembers members
  | .ok _ => .error (.refused .notAnObject)
  | .error .tooDeep => .error (.fault .tooDeep)
  | .error _ => .error (.refused .unreadable)

end Profile

end RelyingParty
