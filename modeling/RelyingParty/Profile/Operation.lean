import RelyingParty.Profile.Facts
import RelyingParty.Profile.Identity
import RelyingParty.Profile.Rights

set_option autoImplicit false

/-! # Operations by name

An application may ask for an operation of a profile by its name, with arguments of any type.
`perform` carries it out and gives what it yields, null for most. A name that is no operation's, or
the wrong number of arguments, is a fault, and so is a name under which a value is noted. -/

namespace RelyingParty.Profile

/-- The result of an operation, and the profile after it. -/
abbrev Performed := Except (Failure ProfileError) Value × Profile

/-- The names of the operations. -/
def operations : List String :=
  ["add_attribute", "add_attributes", "add_authentication_attribute",
   "add_authentication_attributes", "remove_attribute", "remove_authentication_attribute",
   "get_attribute", "contains_attribute", "get_authentication_attribute",
   "contains_authentication_attribute", "add_role", "add_roles", "remove_role", "add_permission",
   "add_permissions", "remove_permission"]

/-- An operation that yields nothing. -/
def yieldingNull (u : ProfileUpdate) : Performed := (u.1.map fun _ => .null, u.2)

/-- An operation that looks at a fact. -/
def looking (p : Profile) (k : FactKind) (key : Value) (f : Option Value → Value) : Performed :=
  (((p.fact? k key).map f).mapError .fault, p)

/-- What is found under a name that is no operation with so many arguments. -/
def notPerformed (p : Profile) (name : String) : Fault :=
  if operations.contains name then .wrongType
  else
    match p.property name with
    | .ok _ => .wrongType
    | .error cause => cause

/-- An operation by its name. -/
def operate (p : Profile) (name : String) (args : List Value) : Performed :=
  match name, args with
  | "add_attribute", [k, v] => yieldingNull (p.add .attribute k v)
  | "add_authentication_attribute", [k, v] => yieldingNull (p.add .authentication k v)
  | "add_attributes", [v] => yieldingNull (p.addAll .attribute v)
  | "add_authentication_attributes", [v] => yieldingNull (p.addAll .authentication v)
  | "remove_attribute", [k] => yieldingNull (p.remove .attribute k)
  | "remove_authentication_attribute", [k] => yieldingNull (p.remove .authentication k)
  | "get_attribute", [k] => p.looking .attribute k (·.getD .null)
  | "get_attribute", [k, d] => p.looking .attribute k (·.getD d)
  | "get_authentication_attribute", [k] => p.looking .authentication k (·.getD .null)
  | "get_authentication_attribute", [k, d] => p.looking .authentication k (·.getD d)
  | "contains_attribute", [k] => p.looking .attribute k (.bool ·.isSome)
  | "contains_authentication_attribute", [k] => p.looking .authentication k (.bool ·.isSome)
  | "add_role", [v] => yieldingNull (p.grant .role v)
  | "add_roles", [v] => yieldingNull (p.grantAll .role v)
  | "remove_role", [v] => yieldingNull (p.revoke .role v)
  | "add_permission", [v] => yieldingNull (p.grant .permission v)
  | "add_permissions", [v] => yieldingNull (p.grantAll .permission v)
  | "remove_permission", [v] => yieldingNull (p.revoke .permission v)
  | _, _ => (.error (.fault (p.notPerformed name)), p)

/-- Carry out an operation by its name. -/
def perform (p : Profile) (name : String) (args : List Value) : Performed :=
  if p.notes.contains name then (.error (.fault .wrongType), p) else p.operate name args

/-- What a name stands for: a property, a value that is noted, or an operation. -/
def named (p : Profile) (name : String) : Except Fault Value :=
  match p.property name with
  | .error .missingOperation =>
    if operations.contains name then .ok (.object 0) else .error .missingOperation
  | result => result

end RelyingParty.Profile
