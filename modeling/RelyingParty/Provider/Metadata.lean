import RelyingParty.Configuration.Field
import RelyingParty.Http.Remote
import RelyingParty.Provider.KeyCache

set_option autoImplicit false

/-! # Metadata of a provider

A provider describes itself in a document: who it is, where its endpoints are, and what it supports.
The members a client uses have fields; all others are kept as they are. -/

namespace RelyingParty

/-- What a provider says about itself. -/
structure ProviderMetadata where
  issuer : String
  jwksUri : Option String := none
  authorizationEndpoint : Option String := none
  tokenEndpoint : Option String := none
  endSessionEndpoint : Option String := none
  idTokenSigningAlgorithms : List String := []
  backchannelLogout : Bool := false
  backchannelLogoutSession : Bool := false
  frontchannelLogout : Bool := false
  frontchannelLogoutSession : Bool := false
  /-- Whether responses to authentication requests name the issuer. -/
  issuerInResponses : Bool := false
  /-- The other members. -/
  extra : Entries String Value := []
  deriving Repr

/-- Why there is no metadata. -/
inductive MetadataError where
  /-- The document was not obtained. -/
  | fetch (cause : FetchError)
  /-- The document has problems. -/
  | invalid (problems : List Problem)
  deriving Repr

namespace ProviderMetadata

/-- The members that have a field. -/
def declared : List String :=
  ["authorization_endpoint", "authorization_response_iss_parameter_supported",
   "backchannel_logout_session_supported", "backchannel_logout_supported",
   "end_session_endpoint", "frontchannel_logout_session_supported",
   "frontchannel_logout_supported", "id_token_signing_alg_values_supported", "issuer", "jwks_uri",
   "token_endpoint"]

/-- How problems show a key that is not text. -/
def keyLabel : Value → String
  | .int n => toString n
  | .bool b => if b then "1" else "0"
  | key => key.quoted

/-- The members of a document by name; a key that is not text is a problem. -/
def namedMembers : List (Value × Value) → Entries String Value × List Problem
  | [] => ([], [])
  | (.text name, v) :: rest =>
    let (members, problems) := namedMembers rest
    ((name, v) :: members, problems)
  | (key, _) :: rest =>
    let (members, problems) := namedMembers rest
    (members, ⟨[keyLabel key], .invalidKey⟩ :: problems)

/-- Whether a key is text with half of a surrogate pair in it; a document with such a key is not
    read any further. -/
def isBrokenKey : Value → Bool
  | .brokenText _ => true
  | _ => false

/-- Read the metadata from the members of a document. -/
def reading (document : List (Value × Value)) : Field.Reading ProviderMetadata := do
  let (members, problems) := namedMembers document
  modify (· ++ problems)
  return {
    issuer := ← Field.required members "issuer" Field.text ""
    jwksUri := ← Field.member members "jwks_uri" Field.optionalText none
    authorizationEndpoint := ← Field.member members "authorization_endpoint" Field.optionalText none
    tokenEndpoint := ← Field.member members "token_endpoint" Field.optionalText none
    endSessionEndpoint := ← Field.member members "end_session_endpoint" Field.optionalText none
    idTokenSigningAlgorithms := ← Field.member members "id_token_signing_alg_values_supported"
      Field.texts []
    backchannelLogout := ← Field.member members "backchannel_logout_supported" Field.switch false
    backchannelLogoutSession := ← Field.member members "backchannel_logout_session_supported"
      Field.switch false
    frontchannelLogout := ← Field.member members "frontchannel_logout_supported" Field.switch false
    frontchannelLogoutSession := ← Field.member members "frontchannel_logout_session_supported"
      Field.switch false
    issuerInResponses := ← Field.member members "authorization_response_iss_parameter_supported"
      Field.switch false
    extra := members.filter fun (name, _) => !declared.contains name }

/-- The metadata a document holds. -/
def ofValue : Value → Except (List Problem) ProviderMetadata
  | .dict document =>
    if (Entries.keys document).any isBrokenKey then .error [⟨[], .stringUnicode⟩]
    else Field.run (reading document)
  | _ => .error [⟨[], .modelType⟩]

/-- Fetch the metadata from the address where it is published. -/
def load (address : String) (remote : Remote) : Except MetadataError ProviderMetadata × Remote :=
  match remote.fetch address with
  | (.error cause, remote) => (.error (.fetch cause), remote)
  | (.ok document, remote) =>
    match ofValue document with
    | .ok metadata => (.ok metadata, remote)
    | .error problems => (.error (.invalid problems), remote)

/-- All members by name, those with a field first. -/
def fields (m : ProviderMetadata) : List (String × Value) :=
  [("authorization_endpoint", Value.ofText? m.authorizationEndpoint),
   ("authorization_response_iss_parameter_supported", .bool m.issuerInResponses),
   ("backchannel_logout_session_supported", .bool m.backchannelLogoutSession),
   ("backchannel_logout_supported", .bool m.backchannelLogout),
   ("end_session_endpoint", Value.ofText? m.endSessionEndpoint),
   ("frontchannel_logout_session_supported", .bool m.frontchannelLogoutSession),
   ("frontchannel_logout_supported", .bool m.frontchannelLogout),
   ("id_token_signing_alg_values_supported",
     .list (m.idTokenSigningAlgorithms.map .text)),
   ("issuer", .text m.issuer),
   ("jwks_uri", Value.ofText? m.jwksUri),
   ("token_endpoint", Value.ofText? m.tokenEndpoint)] ++ m.extra

/-- A cache for the provider's keys, if the provider says where they are. -/
def keyCache? (m : ProviderMetadata) (ttl : Value) : Option KeyCache :=
  let address := m.jwksUri.getD ""
  if address = "" then none else some (KeyCache.empty address ttl)

/-- The wording when the provider does not say where its keys are. -/
def noKeysMessage : String := "jwks_uri not found in provider metadata"

end ProviderMetadata

end RelyingParty
