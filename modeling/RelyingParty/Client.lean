import RelyingParty.Configuration.Settings
import RelyingParty.Provider.Metadata

set_option autoImplicit false

/-! # Clients

A client is known to its provider by its settings, and knows the provider by its metadata. Its name
tells its session attributes from those of other clients, and, if the settings say so, its callback
URL from theirs. -/

namespace RelyingParty

/-- A client of one provider. -/
structure Client where
  settings : Settings
  metadata : ProviderMetadata
  deriving Repr

namespace Client

/-- The name of a client; it may have been replaced by a value of any type. -/
def name (c : Client) : Value := c.settings.clientName

/-! ## Session attributes -/

/-- The session attribute with the state sent with the authentication request. -/
def stateAttribute (c : Client) : String := c.name.display ++ "#oidcStateAttribute"

/-- The session attribute with the nonce sent with the authentication request. -/
def nonceAttribute (c : Client) : String := c.name.display ++ "#nonce"

/-! ## The callback URL -/

/-- The callback URL registered for a client; it may have to carry the client's name. -/
def callbackUrl (c : Client) : Except (Failure UrlError) Value :=
  let url := c.settings.callbackUrl
  if !url.truthy then .ok (.text "")
  else if !c.settings.callbackUrlClientParameter then .ok url
  else Url.withField url c.settings.clientNameParameter c.name

end Client

end RelyingParty
