import RelyingParty.Client
import RelyingParty.Session.Address
import RelyingParty.Token.Validator

set_option autoImplicit false

/-! # Setting up a client

A client is set up from its settings: they are checked, the provider's metadata is fetched unless it
is at hand, a validator is made for the provider's keys, and an index for logouts is chosen. The
index is shared if the settings name a store for it, and in memory otherwise; a client that is given
a handler for logouts leaves the choice to it. -/

namespace RelyingParty

/-- What finds sessions at a logout. -/
inductive IndexChoice where
  /-- Whatever the given handler uses. -/
  | given
  /-- An index in memory. -/
  | memory
  /-- An index in a shared store. -/
  | shared (index : SharedIndex)
  deriving Repr

/-- A client with its validator and its index. -/
structure ClientSetup where
  client : Client
  validator : Token.KeyValidator
  index : IndexChoice
  warnings : List Settings.Warning
  deriving Repr

/-- Why a client cannot be set up. -/
inductive ClientSetupError where
  /-- The settings do not suffice. -/
  | settings (cause : Settings.CheckError)
  /-- There is no metadata, and no address to fetch it from. -/
  | noDiscovery
  /-- The metadata was not obtained. -/
  | metadata (cause : MetadataError)
  /-- The provider does not say where its keys are. -/
  | noKeys
  /-- There is no validator. -/
  | validator (cause : Token.SetupError)
  /-- There is no shared index. -/
  | index (cause : AddressError)
  deriving Repr

namespace ClientSetup

/-- The metadata: as given, or fetched from where the settings say it is. -/
def obtainMetadata (settings : Settings) (given : Option ProviderMetadata) (remote : Remote) :
    Except ClientSetupError ProviderMetadata × Remote :=
  match given, settings.discoveryUri with
  | some metadata, _ => (.ok metadata, remote)
  | none, .text address =>
    if address = "" then (.error .noDiscovery, remote)
    else
      match ProviderMetadata.load address remote with
      | (.ok metadata, remote) => (.ok metadata, remote)
      | (.error cause, remote) => (.error (.metadata cause), remote)
  | none, _ => (.error .noDiscovery, remote)

/-- The validator of a client. -/
def validatorFor (settings : Settings) (metadata : ProviderMetadata) :
    Except ClientSetupError Token.KeyValidator := do
  let some cache := metadata.keyCache? settings.jwksTtlSeconds | throw .noKeys
  (Token.KeyValidator.create metadata.issuer metadata.jwksUri settings.clientId (some cache)
    settings.allowedAlgorithms settings.clockSkewSeconds).mapError .validator

/-- The index of a client. -/
def indexFor (settings : Settings) (handlerGiven : Bool) :
    Except (Failure ClientSetupError) IndexChoice :=
  if handlerGiven then .ok .given
  else if !settings.redisUrl.truthy then .ok .memory
  else
    ((SharedIndex.atAddress settings.redisUrl SharedIndex.defaultSpace .null).map
      IndexChoice.shared).mapError (·.map .index)

/-- Set up a client whose metadata is at hand. -/
def assemble (settings : Settings) (metadata : ProviderMetadata) (handlerGiven : Bool)
    (warnings : List Settings.Warning) : Except (Failure ClientSetupError) ClientSetup := do
  let validator ← (validatorFor settings metadata).mapError .refused
  let index ← indexFor settings handlerGiven
  return { client := ⟨settings, metadata⟩, validator, index, warnings }

/-- Set up a client from its settings. -/
def ofSettings (settings : Settings) (metadata : Option ProviderMetadata) (handlerGiven : Bool)
    (remote : Remote) : Except (Failure ClientSetupError) ClientSetup × Remote :=
  match settings.check with
  | .error failure => (.error (failure.map .settings), remote)
  | .ok warnings =>
    match obtainMetadata settings metadata remote with
    | (.error error, remote) => (.error (.refused error), remote)
    | (.ok metadata, remote) => (assemble settings metadata handlerGiven warnings, remote)

end ClientSetup

end RelyingParty
