import RelyingParty.Client.Setup
import RelyingParty.Endpoint.Report
import RelyingParty.Profile.Comparison
import RelyingParty.Profile.Login
import RelyingParty.Profile.Operation
import RelyingParty.Profile.Stored
import RelyingParty.Proofs.Steps
import RelyingParty.Proofs.Token.Acceptance
import RelyingParty.Proofs.Token.Audience
import RelyingParty.Proofs.Token.Reading
import RelyingParty.Proofs.Callback.Response
import RelyingParty.Proofs.Callback.Classification
import RelyingParty.Proofs.Text.Encoding
import RelyingParty.Proofs.Token.Base64
import RelyingParty.Proofs.Token.Segments
import RelyingParty.Proofs.Logout.BackChannel
import RelyingParty.Proofs.Json.Strings
import RelyingParty.Proofs.Entries
import RelyingParty.Proofs.Json.Numbers
import RelyingParty.Proofs.Value.Built
import RelyingParty.Proofs.Json.RoundTrip
import RelyingParty.Proofs.Profile.StoredFacts
import RelyingParty.Proofs.Profile.RoundTrip
import RelyingParty.Proofs.Token.Policy
import RelyingParty.Proofs.Token.Soundness
import RelyingParty.Proofs.Token.Faults
import RelyingParty.Proofs.Session.Index
import RelyingParty.Proofs.Logout.Sessions
import RelyingParty.Proofs.Logout.Channels
import RelyingParty.Proofs.Logout.Recording
import RelyingParty.Proofs.Callback.Faults
import RelyingParty.Proofs.Session.History
import RelyingParty.Proofs.Json.Values
import RelyingParty.Proofs.Profile.Reading
import RelyingParty.Proofs.Profile.Rules
import RelyingParty.Proofs.Profile.Faults
import RelyingParty.Proofs.Json.Nesting
import RelyingParty.Proofs.Profile.Survival
import RelyingParty.Proofs.Profile.Logins
import RelyingParty.Proofs.Session.Writes
import RelyingParty.Proofs.Logout.History
import RelyingParty.Proofs.Logout.Interchange
import RelyingParty.Proofs.Logout.Sharing
import RelyingParty.Proofs.Url.Separators
import RelyingParty.Proofs.Url.Joining
import RelyingParty.Proofs.Text.Utf8
import RelyingParty.Proofs.Url.Query
import RelyingParty.Proofs.Callback.Configured
import RelyingParty.Proofs.Provider.KeyCache
import RelyingParty.Proofs.Http.Parameters
import RelyingParty.Proofs.Callback.Effects
import RelyingParty.Proofs.Callback.Observed
import RelyingParty.Proofs.Logout.Validation
import RelyingParty.Proofs.Logout.Repetition
import RelyingParty.Proofs.Callback.Notices
import RelyingParty.Proofs.Profile.Changes
import RelyingParty.Proofs.Callback.Named
import RelyingParty.Proofs.Profile.Rereading
import RelyingParty.Proofs.Http.MediaType
import RelyingParty.Proofs.Profile.Granting
import RelyingParty.Proofs.Number.Exact
import RelyingParty.Proofs.Value.Equivalence
import RelyingParty.Proofs.Profile.Accumulation
import RelyingParty.Proofs.Json.Writing
import RelyingParty.Proofs.Json.Ascii
import RelyingParty.Proofs.Profile.Storing
import RelyingParty.Proofs.Token.Occasion
import RelyingParty.Proofs.Token.Window
import RelyingParty.Proofs.Token.OtherClaims
import RelyingParty.Proofs.Token.Written
import RelyingParty.Proofs.Callback.Neighbours
import RelyingParty.Proofs.Profile.Identifiers
import RelyingParty.Proofs.Profile.Locale
import RelyingParty.Proofs.Url.Refusal
import RelyingParty.Proofs.Profile.WebAddresses
