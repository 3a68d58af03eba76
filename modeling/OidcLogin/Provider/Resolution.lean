import OidcLogin.Provider.Config
import OidcLogin.Provider.Discovery
import OidcLogin.Settings.Basic
import OidcLogin.Settings.Endpoint

namespace OidcLogin

def callbackPath : Text := "/api/session/openid/callback"

structure Endpoints where
  authorization : Text
  token : Text
  userinfo : Text
deriving DecidableEq

namespace Resolution

structure Ground where
  clientId : Text
  clientSecret : Text
  baseUrl : Text
deriving DecidableEq

def checkGround (s : Settings) : Except SettingFault Ground :=
  match s.clientId with
  | none | some [] => .error (.missing "client_id")
  | some clientId =>
    match s.clientSecret with
    | none | some [] => .error (.missing "client_secret")
    | some clientSecret =>
      match checkEndpoint "web_url" (some s.webUrl) true with
      | .error fault => .error fault
      | .ok baseUrl => .ok ⟨clientId, clientSecret, baseUrl⟩

def checkEndpoints (allowHttp : Bool) (authorization token userinfo : Text × Option Text) :
    Except SettingFault Endpoints :=
  match checkEndpoint authorization.1 authorization.2 allowHttp with
  | .error fault => .error fault
  | .ok authorization =>
    match checkEndpoint token.1 token.2 allowHttp with
    | .error fault => .error fault
    | .ok token =>
      match checkEndpoint userinfo.1 userinfo.2 allowHttp with
      | .error fault => .error fault
      | .ok userinfo => .ok ⟨authorization, token, userinfo⟩

def explicitEndpoints (s : Settings) : Except Failure Endpoints :=
  match checkEndpoints s.unsafeLocalDev ("auth_url", s.authUrl) ("token_url", s.tokenUrl)
      ("userinfo_url", s.userinfoUrl) with
  | .ok endpoints => .ok endpoints
  | .error fault => .error (.setting fault)

def discoveredEndpoints (allowHttp : Bool) (issuer : Text) (m : ProviderMetadata) :
    Except Failure Endpoints :=
  match checkEndpoints allowHttp ("authorization_endpoint", some m.authorizationEndpoint)
      ("token_endpoint", some m.tokenEndpoint) ("userinfo_endpoint", some m.userinfoEndpoint) with
  | .ok endpoints => .ok endpoints
  | .error fault => .error (.discovery (.unusable issuer fault))

def isSet : Option Text → Bool
  | none | some [] => false
  | some _ => true

def hasExplicitEndpoint (s : Settings) : Bool :=
  isSet s.authUrl || isSet s.tokenUrl || isSet s.userinfoUrl

def configOf (s : Settings) (ground : Ground) (issuer : Option Text) (e : Endpoints) :
    Except Failure ProviderConfig :=
  let config : ProviderConfig :=
    { force := s.force
      clientId := ground.clientId
      clientSecret := ground.clientSecret
      callbackUrl := ground.baseUrl ++ callbackPath
      authorizationEndpoint := e.authorization
      tokenEndpoint := e.token
      userinfoEndpoint := e.userinfo
      baseUrl := ground.baseUrl
      adminGroup := s.adminGroup
      allowGroup := s.allowGroup
      groupsClaimName := s.groupsClaimName
      issuer := issuer
      httpTimeout := s.httpTimeout
      restrictPrivateNetworks := s.restrictPrivateNetworks }
  match Reader.nonEmptyText ⟨"client_id", none⟩ (.text ground.clientId) with
  | .ok _ => .ok config
  | .refused violations => .error (.invalid ⟨ProviderConfig.model, violations⟩)

-- Discovery with the client that was handed in, or with one that lives only for it.
def discoverWith (s : Settings) (issuer : Text) :
    Option HttpClient → NetProgram (Except Failure ProviderMetadata)
  | some client => Discovery.discover issuer client
  | none =>
    .ask (.openClient ⟨s.httpTimeout, s.restrictPrivateNetworks⟩) fun client => do
      let metadata ← Discovery.discover issuer client
      .ask (.closeClient client) fun _ => .done metadata

def endpointsOf (s : Settings) (client : Option HttpClient) :
    NetProgram (Except Failure (Option Text × Endpoints)) :=
  match s.issuerUrl with
  | none | some [] => .done ((explicitEndpoints s).map (none, ·))
  | some issuerUrl =>
    match checkEndpoint "issuer_url" (some issuerUrl) s.unsafeLocalDev with
    | .error fault => .done (.error (.setting fault))
    | .ok issuer => do
      if hasExplicitEndpoint s then
        NetProgram.note (.warning
          "Both issuer_url and explicit endpoints are configured; using discovery from issuer_url")
      match ← discoverWith s issuer client with
      | .error failure => return .error failure
      | .ok metadata =>
        return (discoveredEndpoints s.unsafeLocalDev issuer metadata).map (some issuer, ·)

def resolve (s : Settings) (client : Option HttpClient) :
    NetProgram (Except Failure ProviderConfig) :=
  match checkGround s with
  | .error fault => .done (.error (.setting fault))
  | .ok ground => do
    match ← endpointsOf s client with
    | .error failure => return .error failure
    | .ok (issuer, endpoints) =>
      match configOf s ground issuer endpoints with
      | .error failure => return .error failure
      | .ok config =>
        NetProgram.note (.debug
          ("OpenID provider configured with authorization endpoint " ++ endpoints.authorization))
        return .ok config

end Resolution

end OidcLogin
