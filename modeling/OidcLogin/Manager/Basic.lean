import OidcLogin.Authorization.Request
import OidcLogin.Callback.Handler
import OidcLogin.Manager.Effect
import OidcLogin.Provider.Resolution

namespace OidcLogin

variable {User : Type}

structure LoginManager where
  config : ProviderConfig
  client : HttpClient
  ownsClient : Bool
  oidc : OidcClient

namespace LoginManager

-- A manager with the client that was handed in, or with one of its own.  Another client of the
-- protocol may take the place of the one over HTTP.
def make (config : ProviderConfig) (client : Option HttpClient) (oidc : Option OidcClient) :
    LoginProgram User LoginManager :=
  match client with
  | some client => .done ⟨config, client, false, oidc.getD (.overHttp config client)⟩
  | none =>
    .ask (.net (.openClient ⟨config.httpTimeout, config.restrictPrivateNetworks⟩)) fun client =>
      .done ⟨config, client, true, oidc.getD (.overHttp config client)⟩

def create (settings : Settings) (client : Option HttpClient) :
    LoginProgram User (Except Failure LoginManager) := do
  match ← (Resolution.resolve settings client).lift with
  | .error failure => return .error failure
  | .ok config => return .ok (← make config client none)

def forceLogin (m : LoginManager) : Bool := m.config.force

def requestOf (m : LoginManager) (state : Text) : Except Failure AuthorizationRequest :=
  let scopes := Authorization.scopes m.config
  (m.oidc.authorizationUrl scopes state m.config.callbackUrl).map fun url =>
    ⟨url, state, scopes, m.config.callbackUrl, AuthorizationRequest.codeType⟩

def authorizationRequest (m : LoginManager) :
    LoginProgram User (Except Failure AuthorizationRequest) :=
  .ask (.draw Authorization.stateLength) fun draws =>
    .done (m.requestOf (Authorization.stateOf draws.toList))

def authorizationUri (m : LoginManager) : LoginProgram User (Except Failure Text) := do
  return (← m.authorizationRequest).map (·.url)

def handleCallback (m : LoginManager) (query : Text) (request : CallbackRequest)
    (expected : Option Text) : LoginProgram User (Except Failure Text) :=
  ((CallbackHandler.ofConfig m.config).handle query request expected).withClient m.oidc

def close (m : LoginManager) : LoginProgram User Unit :=
  if m.ownsClient then .ask (.net (.closeClient m.client)) fun _ => .done () else .done ()

end LoginManager

structure LoginFacade where
  config : ProviderConfig
  oidc : Option OidcClient

namespace LoginFacade

def create (settings : Settings) : LoginProgram User (Except Failure LoginFacade) := do
  match ← (Resolution.resolve settings none).lift with
  | .error failure => return .error failure
  | .ok config => return .ok ⟨config, none⟩

def forceLogin (f : LoginFacade) : Bool := f.config.force

def call {α : Type} (f : LoginFacade) (operation : LoginManager → LoginProgram User α) :
    LoginProgram User α := do
  let manager ← LoginManager.make f.config none f.oidc
  let result ← operation manager
  manager.close
  return result

def authorizationRequest (f : LoginFacade) :
    LoginProgram User (Except Failure AuthorizationRequest) :=
  f.call LoginManager.authorizationRequest

def authorizationUri (f : LoginFacade) : LoginProgram User (Except Failure Text) := do
  return (← f.authorizationRequest).map (·.url)

def handleCallback (f : LoginFacade) (query : Text) (request : CallbackRequest)
    (expected : Option Text) : LoginProgram User (Except Failure Text) :=
  f.call fun manager => manager.handleCallback query request expected

end LoginFacade

end OidcLogin
