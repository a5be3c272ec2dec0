import RelyingParty.Fault
import RelyingParty.Text.Blank
import RelyingParty.Value.Display

set_option autoImplicit false

/-! # Profiles

A profile gathers what is known about one person: attributes, attributes of the authentication,
roles and permissions, each kept in the order in which it came in. A profile is of one of three
classes, and either merges the sequences added under one key or keeps the last one.

Nothing blank gets into a profile through its operations: no identifier, no key, no role and no
permission. What is refused has a reason; a value that cannot be a key is a fault. -/

namespace RelyingParty

/-! ## Classes of profiles -/

/-- The class of a profile. -/
inductive ProfileClass where
  /-- Facts of any kind. -/
  | user
  /-- Facts among which are the usual ones, such as names. -/
  | common
  /-- The usual facts and the tokens of a login. -/
  | oidc
  deriving DecidableEq, Repr

namespace ProfileClass

/-- The name of a class. -/
def name : ProfileClass → String
  | .user => "UserProfile"
  | .common => "CommonProfile"
  | .oidc => "OidcProfile"

/-- The name a class is stored by. -/
def storedName (c : ProfileClass) : String := "oidc_rp.profile.models." ++ c.name

def all : List ProfileClass := [.user, .common, .oidc]

/-- The class stored under a name. -/
def ofStoredName? (name : String) : Option ProfileClass := all.find? (·.storedName == name)

theorem ofStoredName?_storedName (c : ProfileClass) : ofStoredName? c.storedName = some c := by
  cases c <;> decide

end ProfileClass

/-! ## Profiles -/

/-- The facts under their keys. -/
abbrev FactStore := Entries Value Value

/-- What is known about one person. -/
structure Profile where
  kind : ProfileClass
  /-- Whether sequences added under one key are merged. -/
  merges : Bool := true
  id : Option String := none
  attributes : FactStore := []
  authentication : FactStore := []
  roles : List Value := []
  permissions : List Value := []
  remembered : Value := .bool false
  linkedId : Value := .null
  clientName : Value := .null
  /-- What an application has noted under names of its own. -/
  notes : Entries String Value := []
  deriving Repr

/-- The two stores of facts. -/
inductive FactKind where
  | attribute
  | authentication
  deriving DecidableEq, Repr

/-- The two sets of rights. -/
inductive RightKind where
  | role
  | permission
  deriving DecidableEq, Repr

/-- How messages call a right. -/
def RightKind.name : RightKind → String
  | .role => "role"
  | .permission => "permission"

namespace Profile

/-- A store of facts. -/
def facts (p : Profile) : FactKind → FactStore
  | .attribute => p.attributes
  | .authentication => p.authentication

/-- Replace a store of facts. -/
def withFacts (p : Profile) (k : FactKind) (facts : FactStore) : Profile :=
  match k with
  | .attribute => { p with attributes := facts }
  | .authentication => { p with authentication := facts }

/-- A set of rights. -/
def rights (p : Profile) : RightKind → List Value
  | .role => p.roles
  | .permission => p.permissions

/-- Replace a set of rights. -/
def withRights (p : Profile) (k : RightKind) (rights : List Value) : Profile :=
  match k with
  | .role => { p with roles := rights }
  | .permission => { p with permissions := rights }

end Profile

/-! ## What is refused -/

/-- Why a profile refuses a change. -/
inductive ProfileError where
  /-- The identifier is blank. -/
  | blankId
  /-- A key is blank. -/
  | blankKey
  /-- There are no facts to add. -/
  | noFacts
  /-- A right is blank. -/
  | blankRight (kind : RightKind)
  /-- There are no rights to add. -/
  | noRights (kind : RightKind)
  /-- A text stands where a collection of rights should be. -/
  | textForRights (kind : RightKind)
  /-- A value is no typed identifier. -/
  | typedId (value : Value)
  deriving Repr

/-- The wording of an error. -/
def ProfileError.message : ProfileError → String
  | .blankId => "id cannot be blank"
  | .blankKey => "key cannot be blank"
  | .noFacts => "attributes cannot be null"
  | .blankRight kind => kind.name ++ " cannot be blank"
  | .noRights kind => kind.name ++ "s cannot be null"
  | .textForRights kind => kind.name ++ "s must be a collection, not a string"
  | .typedId value => "Not a typed id: " ++ value.quoted

/-- Whether a value is blank: null, or of blank text. -/
def Value.isBlank : Value → Bool
  | .null => true
  | v => Text.isBlankText v.display

/-- The outcome of an operation, and the profile after it. -/
abbrev ProfileUpdate := Except (Failure ProfileError) Unit × Profile

end RelyingParty
