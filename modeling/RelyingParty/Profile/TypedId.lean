import RelyingParty.Profile.Basic

set_option autoImplicit false

/-! # Identifiers

The identifier of a profile is a text that is not blank. A typed identifier puts the class of the
profile before it, so that two profiles of different classes never share one; `splitTypedId` takes
it apart at the first separator, which no class has in its name. -/

namespace RelyingParty

namespace Profile

/-- Set the identifier to the text of a value. -/
def setId (p : Profile) (id : Value) : ProfileUpdate :=
  if id.isBlank then (.error (.refused .blankId), p) else (.ok (), { p with id := some id.display })

/-- What stands between the class and the identifier. -/
def typedIdSeparator : Char := '#'

/-- The identifier with the class of the profile. A profile without identifier has one, too. -/
def typedId (p : Profile) : String :=
  p.kind.storedName ++ String.singleton typedIdSeparator ++ p.id.getD "None"

end Profile

/-- The text before a separator and the text after it; without the separator, nothing follows. -/
def divideText (separator : Char) (s : String) : String × String :=
  (String.ofList (s.toList.takeWhile (· != separator)),
    String.ofList ((s.toList.dropWhile (· != separator)).drop 1))

/-- The class and the identifier of a typed identifier. -/
def splitTypedId (v : Value) : Except (Failure ProfileError) (String × String) :=
  if !v.truthy then .error (.refused (.typedId v))
  else
    match v with
    | .text s =>
      let (kind, id) := divideText Profile.typedIdSeparator s
      if kind = "" || id = "" then .error (.refused (.typedId v)) else .ok (kind, id)
    | .bytes _ => .error (.fault .wrongType)
    | _ => .error (.fault .missingOperation)

end RelyingParty
