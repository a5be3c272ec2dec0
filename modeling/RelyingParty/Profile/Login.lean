import RelyingParty.Callback.Credentials
import RelyingParty.Profile.Facts
import RelyingParty.Profile.TypedId

set_option autoImplicit false

/-! # Profiles of a login

A login gives a profile: its identifier is the subject of the verified claims, its attributes are
the other claims and the tokens of the credentials. -/

namespace RelyingParty.Profile

/-- The claim with the identifier. -/
def subjectClaim : String := "sub"

/-- The tokens of credentials as attributes. -/
def tokenAttributes (c : Credentials) : List (Value × Value) :=
  (if c.idToken.truthy then [(.text "id_token", c.idToken)] else [])
    ++ (c.accessToken.toList.map fun token => (.text "access_token", token.value))

/-- The profile of a login. -/
def ofClaims (claims : Value) (credentials : Option Credentials) (merges : Bool) :
    Except (Failure ProfileError) Profile :=
  match claims with
  | .dict members =>
    match setId { kind := .oidc, merges } (Value.fieldD members subjectClaim) with
    | (.error e, _) => .error e
    | (.ok (), p) =>
      let others := members.filter fun (key, _) => !key.same (.text subjectClaim)
      match p.addAll .attribute (.dict others) with
      | (.error e, _) => .error e
      | (.ok (), p) =>
        match addFacts merges p.attributes ((credentials.map tokenAttributes).getD []) with
        | (.error e, _) => .error e
        | (.ok (), attributes) => .ok { p with attributes }
  | _ => .error (.fault .missingOperation)

end RelyingParty.Profile
