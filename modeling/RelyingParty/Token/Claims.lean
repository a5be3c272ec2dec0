import RelyingParty.Value.Conversion

set_option autoImplicit false

/-! # The claims of a token

A token is accepted only at its time and for its audience. `checkClaims` looks at the claims one
after the other: when it was issued, from when and until when it is valid, for whom it was made and
by whom, whom it is about, and its own identifier. Times are compared with a leeway at both ends.

A claim that is absent is not checked, except for the issuer. When a token was issued is only
checked to be a number. The client and the leeway may be values of any type; a leeway that is no
number is a fault only once there is a time to compare with. -/

namespace RelyingParty.Token

/-! ## Errors -/

/-- The claims that state a time. -/
inductive TimeClaim where
  | issuedAt
  | notBefore
  | expiration
  deriving DecidableEq, Repr

/-- The member that holds a time. -/
def TimeClaim.name : TimeClaim → String
  | .issuedAt => "iat"
  | .notBefore => "nbf"
  | .expiration => "exp"

/-- How messages call a time. -/
def TimeClaim.title : TimeClaim → String
  | .issuedAt => "Issued At"
  | .notBefore => "Not Before"
  | .expiration => "Expiration Time"

/-- Why claims are not accepted. -/
inductive ClaimError where
  /-- A time is no number. -/
  | time (claim : TimeClaim)
  /-- It is too early. -/
  | early
  /-- It is too late. -/
  | expired
  /-- The client is not named by text. -/
  | client
  /-- The audience is neither text nor a list of texts. -/
  | audienceKind
  /-- The token is for someone else. -/
  | audience
  /-- The token is from someone else. -/
  | issuer
  /-- The subject is not text. -/
  | subject
  /-- The identifier is not text. -/
  | identifier
  /-- The token is bound to an access token, which is not at hand. -/
  | accessTokenHash
  deriving DecidableEq, Repr

/-- The wording of an error. -/
def ClaimError.message : ClaimError → String
  | .time claim => claim.title ++ " claim (" ++ claim.name ++ ") must be an integer."
  | .early => "The token is not yet valid (nbf)"
  | .expired => "Signature has expired."
  | .client => "audience must be a string or None"
  | .audienceKind => "Invalid claim format in token"
  | .audience => "Invalid audience"
  | .issuer => "Invalid issuer"
  | .subject => "Subject must be a string."
  | .identifier => "JWT ID must be a string."
  | .accessTokenHash => "No access_token provided to compare against at_hash claim."

/-! ## The checks -/

/-- The members of a set of claims. -/
abbrev Claims := List (Value × Value)

/-- The time a claim states, if it is there. -/
def time? (claims : Claims) (claim : TimeClaim) : Except (Failure ClaimError) (Option Int) :=
  match Value.field? claims claim.name with
  | none => .ok none
  | some v =>
    match v.toInteger with
    | .ok t => .ok (some t)
    | .error .notANumber => .error (.refused (.time claim))
    | .error .infinite => .error (.fault .outOfRange)
    | .error .kind => .error (.fault .wrongType)

/-- The number that a leeway is. -/
def leewayOf (leeway : Value) : Except (Failure ClaimError) Numeric :=
  leeway.numeric?.elim (.error (.fault .wrongType)) .ok

/-- The client has to be named by text. -/
def checkClient : Value → Except (Failure ClaimError) Unit
  | .text _ => .ok ()
  | _ => .error (.refused .client)

/-- The token states a number as the time of its issue, if it states one. -/
def checkIssuedAt (claims : Claims) : Except (Failure ClaimError) Unit :=
  (time? claims .issuedAt).map fun _ => ()

/-- The token is valid already. -/
def checkNotBefore (claims : Claims) (now : Int) (leeway : Value) :
    Except (Failure ClaimError) Unit := do
  if let some t ← time? claims .notBefore then
    if ((← leewayOf leeway).addedTo now).isBelow t then throw (.refused .early)

/-- The token is still valid. -/
def checkExpiration (claims : Claims) (now : Int) (leeway : Value) :
    Except (Failure ClaimError) Unit := do
  if let some t ← time? claims .expiration then
    if ((← leewayOf leeway).takenFrom now).isAbove t then throw (.refused .expired)

/-- The parties a token is made for: a text or a list of texts. -/
def audiences? : Value → Option (List Value)
  | .list xs => if xs.all Value.isText then some xs else none
  | v => if v.isText then some [v] else none

/-- The token is made for a client, if it says for whom. -/
def checkAudience (claims : Claims) (client : Value) : Except (Failure ClaimError) Unit :=
  match Value.field? claims "aud" with
  | none => .ok ()
  | some v =>
    match audiences? v with
    | none => .error (.refused .audienceKind)
    | some parties => if parties.any client.same then .ok () else .error (.refused .audience)

/-- The token is made by an issuer. -/
def checkIssuer (claims : Claims) (issuer : String) : Except (Failure ClaimError) Unit :=
  match Value.field? claims "iss" with
  | some (.text s) => if s = issuer then .ok () else .error (.refused .issuer)
  | _ => .error (.refused .issuer)

/-- A claim is text, if it is there. -/
def checkText (claims : Claims) (name : String) (error : ClaimError) :
    Except (Failure ClaimError) Unit :=
  match Value.field? claims name with
  | none => .ok ()
  | some v => if v.isText then .ok () else .error (.refused error)

/-- The token is not bound to an access token. -/
def checkUnbound (claims : Claims) : Except (Failure ClaimError) Unit :=
  match Value.field? claims "at_hash" with
  | none => .ok ()
  | some _ => .error (.refused .accessTokenHash)

/-- All checks, in order. -/
def checkClaims (claims : Claims) (issuer : String) (client : Value) (now : Int) (leeway : Value) :
    Except (Failure ClaimError) Unit := do
  checkClient client
  checkIssuedAt claims
  checkNotBefore claims now leeway
  checkExpiration claims now leeway
  checkAudience claims client
  checkIssuer claims issuer
  checkText claims "sub" .subject
  checkText claims "jti" .identifier
  checkUnbound claims

end RelyingParty.Token
