import OidcLogin.Catalog
import OidcLogin.Proofs.Callback.Authorization
import OidcLogin.Proofs.Callback.Decodings
import OidcLogin.Proofs.Callback.EffectOrder
import OidcLogin.Proofs.Callback.Failures
import OidcLogin.Proofs.Callback.Session
import OidcLogin.Proofs.Callback.StateCheck
import OidcLogin.Proofs.Client.Credentials
import OidcLogin.Proofs.Client.Encryption
import OidcLogin.Proofs.Client.Notes
import OidcLogin.Rehearsal.LogBook
import OidcLogin.Rehearsal.Transport
import OidcLogin.Rehearsal.World
import OidcLogin.Proofs.Callback.Shared
import OidcLogin.Proofs.Callback.Independence
import OidcLogin.Proofs.Provider.Course
import OidcLogin.Proofs.Settings.Normal
import OidcLogin.Proofs.Provider.Established
import OidcLogin.Proofs.Provider.Failures
import OidcLogin.Proofs.Settings.Endpoint
import OidcLogin.Proofs.Text.Numerals
import OidcLogin.Proofs.Address.Reading
import OidcLogin.Proofs.Address.Pinning
import OidcLogin.Proofs.Authorization.ReadBack
import OidcLogin.Proofs.Provider.Origin
import OidcLogin.Proofs.Callback.StoryOverHttp
import OidcLogin.Proofs.Program.Lockstep
import OidcLogin.Proofs.Secrecy.Query
import OidcLogin.Proofs.Secrecy.Answers
import OidcLogin.Proofs.Secrecy.Requests
import OidcLogin.Proofs.Secrecy.Callback
import OidcLogin.Proofs.Callback.RoundTrip
import OidcLogin.Proofs.Client.TokenForm
import OidcLogin.Proofs.Manager.Facade
import OidcLogin.Proofs.Http.Bounded
import OidcLogin.Proofs.Identity.Decision
import OidcLogin.Proofs.Identity.Unusable
import OidcLogin.Proofs.Token.Fields
import OidcLogin.Proofs.Provider.Acceptance
import OidcLogin.Proofs.Provider.Order
import OidcLogin.Proofs.Http.ValueFaults
import OidcLogin.Proofs.Settings.Reloading
import OidcLogin.Proofs.Client.Recovery
import OidcLogin.Proofs.Text.Casing
import OidcLogin.Proofs.Logging.Reconfiguration
