import RelyingParty.Fault
import RelyingParty.Value.Basic

set_option autoImplicit false

/-! # Requests as the callback sees them

Whatever way a request came, the callback sees its parameters, each with all of its values in order,
and its cookies; and it collects headers for the response. -/

namespace RelyingParty

/-- The parameters of a request: each name with its values. -/
abbrev Parameters := Entries String (List String)

/-- A request and the headers set for its response. -/
structure Exchange where
  parameters : Parameters := []
  cookies : Entries String String := []
  responseHeaders : Entries String String := []
  deriving DecidableEq, Repr, Inhabited

namespace Parameters

/-- Add a value after those that are there. -/
def add (p : Parameters) (name value : String) : Parameters :=
  Entries.insert p name ((Entries.get? p name).getD [] ++ [value])

/-- The parameters that a list of fields makes. -/
def ofFields (fields : List (String × String)) : Parameters :=
  fields.foldl (fun p field => p.add field.1 field.2) []

/-- The first value of a parameter. -/
def first? (p : Parameters) (name : String) : Option String :=
  ((Entries.get? p name).getD []).head?

end Parameters

namespace Exchange

/-- The first value of a parameter. -/
def parameter? (e : Exchange) (name : String) : Option String := e.parameters.first? name

/-- The first value of a parameter that may be named by any value: only text names one. -/
def parameterNamed? (e : Exchange) (name : Value) : Except Fault (Option String) :=
  match name with
  | .text s => .ok (e.parameter? s)
  | v => if v.hashable then .ok none else .error .wrongType

/-- A cookie. -/
def cookie? (e : Exchange) (name : String) : Option String := e.cookies.get? name

/-- Set a header of the response. -/
def setHeader (e : Exchange) (name value : String) : Exchange :=
  { e with responseHeaders := e.responseHeaders.insert name value }

end Exchange

end RelyingParty
