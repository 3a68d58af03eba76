import OidcLogin.Authorization.Request
import OidcLogin.Authorization.Url
import OidcLogin.Callback.Handler
import OidcLogin.Identity.Basic
import OidcLogin.Provider.Config
import OidcLogin.Provider.Metadata
import OidcLogin.Token.Response

namespace OidcLogin.Catalog

def version : Text := "0.1.0"

def publicNames : List Text :=
  ["AuthorizationDeniedError", "AuthorizationRequest", "ConfigurationError", "CoreasonOpenIdError",
   "GroupAuthorizationDeniedError", "LoginError", "MalformedCallbackError", "OpenIdManager",
   "OpenIdManagerAsync", "OpenIdSettings", "ProviderConfig", "ProviderDiscoveryError",
   "StateMismatchError", "StorageError", "TokenExchangeError", "UserIdentity",
   "UserInfoFetchError", "resolve_provider_config"]

-- What is handed over by the callers needs query parameters, and nothing else, to count as the
-- request of a callback.
def isCallbackRequest (attributes : Members) : Bool := attributes.has "query_params"

structure Enumeration where
  name : Text
  entries : List (Text × Text)

def scopes : Enumeration := ⟨"OpenIdScope", Authorization.standardScopes⟩

def callbackStates : Enumeration :=
  ⟨"CallbackState", CallbackState.all.map fun state => (state.text.upper, state.text)⟩

def enumerations : List Enumeration := [scopes, callbackStates]

def enumeration? (name : Text) : Option Enumeration := enumerations.find? (·.name = name)

namespace Enumeration

def member? (e : Enumeration) : Json → Option (Text × Text)
  | .text t => e.entries.find? (·.2 = t)
  | _ => none

def memberOf (e : Enumeration) (value : Json) : Except Raised (Text × Text) :=
  match e.member? value with
  | some entry => .ok entry
  | none => .error ⟨.value, value.repr ++ " is not a valid " ++ e.name⟩

end Enumeration

def record (model : Text) {α : Type} (checked : Checked α) (toRecord : α → Record) :
    Except Report Record :=
  (checked.toExcept model).map toRecord

def record? (model : Text) (members : Members) : Option (Except Report Record) :=
  if model = AuthorizationRequest.model then
    some (record model (AuthorizationRequest.read members) AuthorizationRequest.toRecord)
  else if model = ProviderConfig.model then
    some (record model (ProviderConfig.read members) ProviderConfig.toRecord)
  else if model = ProviderMetadata.model then
    some (record model (ProviderMetadata.read members) ProviderMetadata.toRecord)
  else if model = TokenResponse.model then
    some (record model (TokenResponse.read members) TokenResponse.toRecord)
  else if model = UserClaims.model then
    some (record model (UserClaims.read members) UserClaims.toRecord)
  else if model = UserIdentity.model then
    some (record model (UserIdentity.read members) UserIdentity.toRecord)
  else none

-- The text of a failure that was made with these values: nothing, the one value, or all of them in
-- brackets.
def failureText : List Json → Text
  | [] => []
  | [value] => value.display
  | values => "(" ++ Text.join ", " (values.map Json.repr) ++ ")"

def isPublic (name : Text) : Bool := publicNames.contains name

end OidcLogin.Catalog
