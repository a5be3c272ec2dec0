import RelyingParty.Value.Display

set_option autoImplicit false

/-! # Credentials

A login that succeeded yields credentials: a code to be exchanged, an ID token, an access token, or
several of them. Credentials without any of these do not exist, and neither does an access token
without a value or a type. The parts are text when a provider sends them; an application that makes
credentials itself may put values of any type into them.

Their descriptions name what is there and never show a secret. -/

namespace RelyingParty

/-! ## Access tokens -/

/-- A token for access to resources. -/
structure AccessToken where
  value : Value
  tokenType : Value
  /-- The seconds for which the token is good, or null. -/
  expiresIn : Value := .null
  /-- What the token is good for, or null. -/
  scope : Value := .null
  value_truthy : value.truthy = true
  tokenType_truthy : tokenType.truthy = true
  deriving Repr

/-- Why there is no access token. -/
inductive AccessTokenError where
  /-- The value is empty. -/
  | value
  /-- The type is empty. -/
  | tokenType
  deriving DecidableEq, Repr

/-- The wording of an error. -/
def AccessTokenError.message : AccessTokenError → String
  | .value => "Access token value cannot be empty"
  | .tokenType => "Access token type cannot be empty"

namespace AccessToken

/-- An access token; the value is looked at before the type. -/
def create (value tokenType expiresIn scope : Value) : Except AccessTokenError AccessToken :=
  if hv : value.truthy = true then
    if ht : tokenType.truthy = true then .ok ⟨value, tokenType, expiresIn, scope, hv, ht⟩
    else .error .tokenType
  else .error .value

/-- What a token is like, without its value. -/
def description (t : AccessToken) : String :=
  "AccessToken(token_type=" ++ t.tokenType.quoted ++ ", scope=" ++ t.scope.quoted ++ ")"

end AccessToken

/-! ## Credentials -/

/-- What a login yields. -/
structure Credentials where
  code : Value
  idToken : Value
  accessToken : Option AccessToken
  some_given : code.truthy || idToken.truthy || accessToken.isSome
  deriving Repr

namespace Credentials

/-- Credentials, unless they would be empty. -/
def create? (code idToken : Value) (accessToken : Option AccessToken) : Option Credentials :=
  if h : code.truthy || idToken.truthy || accessToken.isSome then
    some ⟨code, idToken, accessToken, h⟩
  else none

/-- The wording for credentials that would be empty. -/
def emptyMessage : String := "Credentials must carry a code, an ID token or an access token"

/-- A secret in a description: whether it is there. -/
def masked (secret : Value) : String := if secret.truthy then "***" else "None"

/-- What the credentials hold, without any secret. -/
def description (c : Credentials) : String :=
  "Credentials(code=" ++ masked c.code ++ ", id_token=" ++ masked c.idToken ++ ", access_token="
    ++ (c.accessToken.map AccessToken.description).getD "None" ++ ")"

/-- Credentials exist exactly if one of their parts is given. -/
theorem create?_isSome (code idToken : Value) (accessToken : Option AccessToken) :
    (create? code idToken accessToken).isSome
      = (code.truthy || idToken.truthy || accessToken.isSome) := by
  unfold create?
  split <;> simp_all

end Credentials

end RelyingParty
