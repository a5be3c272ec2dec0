import RelyingParty.Profile.Basic

set_option autoImplicit false

/-! # Comparing and describing profiles -/

namespace RelyingParty.Profile

/-- Whether two profiles say the same: all facts in any order, all rights in the same order. How
    they merge does not matter. -/
def equals (p q : Profile) : Bool :=
  p.kind == q.kind && p.id == q.id
    && Value.same (.dict p.attributes) (.dict q.attributes)
    && Value.same (.dict p.authentication) (.dict q.authentication)
    && Value.sameList p.roles q.roles && Value.sameList p.permissions q.permissions
    && p.remembered.equals q.remembered && p.linkedId.equals q.linkedId
    && p.clientName.equals q.clientName

/-- A short description. It names the attributes without their values. -/
def description (p : Profile) : String :=
  p.kind.name ++ "(id=" ++ (Value.ofText? p.id).quoted
    ++ ", attributes=" ++ (Value.list p.attributes.keys).quoted
    ++ ", roles=" ++ (Value.list p.roles).quoted
    ++ ", permissions=" ++ (Value.list p.permissions).quoted
    ++ ", remembered=" ++ p.remembered.display ++ ")"

end RelyingParty.Profile
