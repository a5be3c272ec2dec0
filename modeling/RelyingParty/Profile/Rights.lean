import RelyingParty.Profile.Basic
import RelyingParty.Value.Conversion

set_option autoImplicit false

/-! # Roles and permissions

Roles and permissions are sets that remember the order in which their elements came in. Any value
that is neither blank nor able to change may be one. A collection is looked through for blank
elements before the first one is added; an element that can change is found only when its turn
comes. -/

namespace RelyingParty.Profile

/-! ## One set -/

/-- Add a right to a set of rights; of two that are the same, the first one stays. -/
def insertRight (rights : List Value) (right : Value) : Except Fault (List Value) :=
  if !right.hashable then .error .wrongType
  else if rights.any (·.same right) then .ok rights
  else .ok (rights ++ [right])

/-- Add rights one by one, up to the first one that is not accepted. -/
def insertRights (rights : List Value) : List Value → Except Fault Unit × List Value
  | [] => (.ok (), rights)
  | right :: rest =>
    match insertRight rights right with
    | .ok rights => insertRights rights rest
    | .error cause => (.error cause, rights)

/-- The rights of a collection, none of which is blank. -/
def rightsOf (k : RightKind) (rights : Value) : Except (Failure ProfileError) (List Value) :=
  match rights with
  | .null => .error (.refused (.noRights k))
  | .text _ | .brokenText _ | .bytes _ => .error (.refused (.textForRights k))
  | v =>
    match v.elements with
    | .error cause => .error (.fault cause)
    | .ok values =>
      if values.any Value.isBlank then .error (.refused (.blankRight k)) else .ok values

/-! ## Profiles -/

/-- Add a right to a profile. -/
def grant (p : Profile) (k : RightKind) (right : Value) : ProfileUpdate :=
  if right.isBlank then (.error (.refused (.blankRight k)), p)
  else
    match insertRight (p.rights k) right with
    | .ok rights => (.ok (), p.withRights k rights)
    | .error cause => (.error (.fault cause), p)

/-- Add the rights of a collection to a profile. -/
def grantAll (p : Profile) (k : RightKind) (rights : Value) : ProfileUpdate :=
  match rightsOf k rights with
  | .error e => (.error e, p)
  | .ok values =>
    match insertRights (p.rights k) values with
    | (.ok (), rights) => (.ok (), p.withRights k rights)
    | (.error cause, rights) => (.error (.fault cause), p.withRights k rights)

/-- Take a right away. A value that cannot be a right is a fault, unless there is nothing to take.
    -/
def revoke (p : Profile) (k : RightKind) (right : Value) : ProfileUpdate :=
  if (p.rights k).isEmpty then (.ok (), p)
  else if !right.hashable then (.error (.fault .wrongType), p)
  else (.ok (), p.withRights k ((p.rights k).filter (!·.same right)))

end RelyingParty.Profile
