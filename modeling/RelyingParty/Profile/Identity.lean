import RelyingParty.Profile.TypedId
import RelyingParty.Url.Basic

set_option autoImplicit false

/-! # The usual facts

Some attributes have a meaning that is common to all providers: names, addresses, a gender, a
locale, pictures and pages. They are read from the attributes of a profile, whatever values those
have. A gender that is not understood is unspecified, and a locale that is not understood is none.

`property` gives the properties of a profile by name; which ones there are depends on its class. An
application may note values under other names. -/

namespace RelyingParty

/-! ## Reading values -/

namespace Locale

/-- The letters of a language: two or three. -/
def isLanguage (cs : List Char) : Bool :=
  (cs.length == 2 || cs.length == 3) && cs.all Char.isAlpha

/-- The letters of a country: two. -/
def isCountry (cs : List Char) : Bool := cs.length == 2 && cs.all Char.isAlpha

/-- A character between language and country. -/
def isSeparator (c : Char) : Bool := c == '_' || c == '-'

/-- The language and what stands for the country; a line end may follow. -/
def parts? (cs : List Char) : Option (List Char × List Char) :=
  let lineEnd := if cs.getLast? = some '\n' then ['\n'] else []
  let tag := if lineEnd.isEmpty then cs else cs.dropLast
  let language := tag.takeWhile (!isSeparator ·)
  match tag.dropWhile (!isSeparator ·) with
  | [] => if isLanguage language then some (language ++ lineEnd, []) else none
  | _ :: country =>
    if isLanguage language && isCountry country then some (language, country ++ lineEnd) else none

/-- The locale a text states: the language in lower case, and the country, if there is one, in upper
    case. -/
def ofText? (s : String) : Option String :=
  (parts? s.toList).map fun (language, country) =>
    let language := String.ofList (language.map Char.toLower)
    if country.isEmpty then language
    else language ++ "_" ++ String.ofList (country.map Char.toUpper)

end Locale

/-- The gender a value states. -/
def Gender.ofValue : Value → Gender
  | .member (.gender g) => g
  | .text s =>
    let word := String.ofList ((Text.strip s).toList.map Char.toLower)
    (Gender.all.find? (·.text == word)).getD .unspecified
  | _ => .unspecified

/-- The text a value is, if it is a URL of the web. Half a surrogate pair is read as the replacement
    character, from which no rule about URLs tells it apart. -/
def webUrlOf (v : Value) : Except UrlError (Option Value) :=
  if v.isText then (Url.split v.display).map fun parts => if parts.isWeb then some v else none
  else .ok none

namespace Profile

/-! ## The usual attributes -/

/-- The attribute of a name. -/
def attribute? (p : Profile) (name : String) : Option Value := p.attributes.get? (.text name)

/-- The text of an attribute. -/
def text? (p : Profile) (name : String) : Option String :=
  ((p.attribute? name).filter (!·.isNull)).map Value.display

/-- The gender of a person. -/
def gender (p : Profile) : Gender := Gender.ofValue ((p.attribute? "gender").getD .null)

/-- The locale of a person. -/
def locale? (p : Profile) : Option String :=
  match p.attribute? "locale" with
  | some (.text s) => Locale.ofText? s
  | _ => none

/-- The web address in an attribute. -/
def webUrl? (p : Profile) (name : String) : Except UrlError (Option Value) :=
  webUrlOf ((p.attribute? name).getD .null)

/-! ## Properties by name -/

/-- The properties that show the text of an attribute of the same name. -/
def textProperties : List String :=
  ["email", "first_name", "family_name", "display_name", "username", "location"]

/-- The properties with a web address. -/
def urlProperties : List String := ["picture_url", "profile_url"]

/-- The properties that show the text of an attribute of a login, with the attribute's name. -/
def loginProperties : List (String × String) :=
  [("id_token", "id_token"), ("access_token", "access_token"), ("session_id", "sid")]

/-- The properties that show a whole store. -/
def storeProperties : List String :=
  ["attributes", "authentication_attributes", "roles", "permissions"]

/-- A property of every profile. -/
def generalProperty? (p : Profile) (name : String) : Option Value :=
  match name with
  | "id" => some (Value.ofText? p.id)
  | "typed_id" => some (.text p.typedId)
  | "merge_attributes" => some (.bool p.merges)
  | "remembered" => some p.remembered
  | "linked_id" => some p.linkedId
  | "client_name" => some p.clientName
  | _ => if storeProperties.contains name then some (.object 0) else none

/-- A property of profiles with the usual facts. -/
def commonProperty? (p : Profile) (name : String) : Option (Except Fault Value) :=
  if textProperties.contains name then some (.ok (Value.ofText? (p.text? name)))
  else if name = "gender" then some (.ok (.member (.gender p.gender)))
  else if name = "locale" then some (.ok (Value.ofText? p.locale?))
  else if urlProperties.contains name then
    some (match p.webUrl? name with
      | .ok url => .ok (url.getD .null)
      | .error cause => .error (.badValue cause.message))
  else none

/-- A property of profiles with the tokens of a login. -/
def loginProperty? (p : Profile) (name : String) : Option Value :=
  (Entries.get? loginProperties name).map fun source => Value.ofText? (p.text? source)

/-- A property of the class of a profile. -/
def classProperty? (p : Profile) (name : String) : Option (Except Fault Value) :=
  match p.generalProperty? name with
  | some v => some (.ok v)
  | none =>
    match (if p.kind == .user then none else p.commonProperty? name) with
    | some result => some result
    | none => (if p.kind == .oidc then p.loginProperty? name else none).map .ok

/-- A property by its name, or what is noted under the name. -/
def property (p : Profile) (name : String) : Except Fault Value :=
  match p.classProperty? name with
  | some result => result
  | none => (p.notes.get? name).elim (.error .missingOperation) .ok

/-- Set a property by its name. Most properties cannot be set; a value under any other name is
    noted. -/
def setProperty (p : Profile) (name : String) (value : Value) : ProfileUpdate :=
  match name with
  | "id" => p.setId value
  | "remembered" => (.ok (), { p with remembered := value })
  | "linked_id" => (.ok (), { p with linkedId := value })
  | "client_name" => (.ok (), { p with clientName := value })
  | _ =>
    if (p.classProperty? name).isSome then (.error (.fault .missingOperation), p)
    else (.ok (), { p with notes := p.notes.insert name value })

end Profile

end RelyingParty
