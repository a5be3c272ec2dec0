set_option autoImplicit false

/-! # Enumerations

Three closed sets of named values: the gender a profile states, the outcome of a callback, and the
kind of an authentication response. Members of all three may stand among dynamic values, and a
stored profile names them by the type they belong to and by the text they stand for. -/

namespace RelyingParty

/-- The gender a profile states. -/
inductive Gender where
  | male
  | female
  | unspecified
  deriving DecidableEq, Repr

/-- What became of a callback. -/
inductive Outcome where
  | credentials
  | noCredentials
  | respond
  | fatal
  deriving DecidableEq, Repr

/-- The two kinds of authentication response. -/
inductive ResponseKind where
  | success
  | error
  deriving DecidableEq, Repr

/-- The enumerations whose members may be stored. -/
inductive Enumeration where
  | gender
  | outcome
  | responseKind
  deriving DecidableEq, Repr

/-- A member of one of the enumerations. -/
inductive Member where
  | gender (g : Gender)
  | outcome (o : Outcome)
  | responseKind (k : ResponseKind)
  deriving DecidableEq, Repr

namespace Gender

/-- The text a gender stands for. -/
def text : Gender → String
  | .male => "male"
  | .female => "female"
  | .unspecified => "unspecified"

/-- The name of a gender. -/
def name : Gender → String
  | .male => "MALE"
  | .female => "FEMALE"
  | .unspecified => "UNSPECIFIED"

def all : List Gender := [.male, .female, .unspecified]

end Gender

namespace Outcome

/-- The text an outcome stands for. -/
def text : Outcome → String
  | .credentials => "credentials"
  | .noCredentials => "no_credentials"
  | .respond => "respond"
  | .fatal => "fatal"

/-- The name of an outcome. -/
def name : Outcome → String
  | .credentials => "CREDENTIALS"
  | .noCredentials => "NO_CREDENTIALS"
  | .respond => "RESPOND"
  | .fatal => "FATAL"

def all : List Outcome := [.credentials, .noCredentials, .respond, .fatal]

end Outcome

namespace ResponseKind

/-- The text a kind of response stands for. -/
def text : ResponseKind → String
  | .success => "success"
  | .error => "error"

/-- The name of a kind of response. -/
def name : ResponseKind → String
  | .success => "SUCCESS"
  | .error => "ERROR"

def all : List ResponseKind := [.success, .error]

end ResponseKind

namespace Enumeration

/-- The name an enumeration is shown by. -/
def name : Enumeration → String
  | .gender => "Gender"
  | .outcome => "Outcome"
  | .responseKind => "ResponseKind"

/-- The name an enumeration is stored by. -/
def storedName : Enumeration → String
  | .gender => "oidc_rp.profile.models.Gender"
  | .outcome => "oidc_rp.models.Outcome"
  | .responseKind => "oidc_rp.oidc.response.ResponseKind"

def all : List Enumeration := [.gender, .outcome, .responseKind]

/-- The stored names of the families to which enumerations belong. A family has no members. -/
def families : List String :=
  ["enum.Enum", "enum.ReprEnum", "enum.IntEnum", "enum.StrEnum", "enum.Flag", "enum.IntFlag"]

/-- The enumeration stored under a name. -/
def ofStoredName? (name : String) : Option Enumeration := all.find? (·.storedName == name)

/-- The members of an enumeration, in order. -/
def members : Enumeration → List Member
  | .gender => Gender.all.map .gender
  | .outcome => Outcome.all.map .outcome
  | .responseKind => ResponseKind.all.map .responseKind

theorem ofStoredName?_storedName (e : Enumeration) : ofStoredName? e.storedName = some e := by
  cases e <;> decide

end Enumeration

namespace Member

/-- The enumeration a member belongs to. -/
def enumeration : Member → Enumeration
  | .gender _ => .gender
  | .outcome _ => .outcome
  | .responseKind _ => .responseKind

/-- The text a member stands for. -/
def text : Member → String
  | .gender g => g.text
  | .outcome o => o.text
  | .responseKind k => k.text

/-- The name of a member within its enumeration. -/
def name : Member → String
  | .gender g => g.name
  | .outcome o => o.name
  | .responseKind k => k.name

/-- The name of a member with its enumeration. -/
def display (m : Member) : String := m.enumeration.name ++ "." ++ m.name

/-- The member of an enumeration that stands for a text. -/
def ofText? (e : Enumeration) (text : String) : Option Member :=
  e.members.find? (·.text == text)

theorem ofText?_text (m : Member) : ofText? m.enumeration m.text = some m := by
  cases m with
  | gender g => cases g <;> decide
  | outcome o => cases o <;> decide
  | responseKind k => cases k <;> decide

end Member

end RelyingParty
