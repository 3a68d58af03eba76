import OidcLogin.Record.Shown
import OidcLogin.Validation.Scalar

namespace OidcLogin

structure ProviderConfig where
  force : Bool
  clientId : Text
  clientSecret : Text
  callbackUrl : Text
  authorizationEndpoint : Text
  tokenEndpoint : Text
  userinfoEndpoint : Text
  baseUrl : Text
  adminGroup : Option Text
  allowGroup : Option Text
  groupsClaimName : Text
  issuer : Option Text
  httpTimeout : Binary64
  restrictPrivateNetworks : Bool
deriving DecidableEq

namespace ProviderConfig

def model : Text := "ProviderConfig"

def fieldNames : List Text :=
  ["force", "client_id", "client_secret", "callback_url", "authorization_endpoint",
   "token_endpoint", "userinfo_endpoint", "base_url", "admin_group", "allow_group",
   "groups_claim_name", "issuer", "http_timeout", "restrict_private_networks"]

def defaultTimeout : Binary64 := Binary64.ofRatio false 10 1

def make (force : Bool) (clientId clientSecret callbackUrl authorizationEndpoint tokenEndpoint
    userinfoEndpoint baseUrl : Text) (adminGroup allowGroup : Option Text) (groupsClaimName : Text)
    (issuer : Option Text) (httpTimeout : Binary64) (restrict : Bool) (_ : Unit) : ProviderConfig :=
  ⟨force, clientId, clientSecret, callbackUrl, authorizationEndpoint, tokenEndpoint,
    userinfoEndpoint, baseUrl, adminGroup, allowGroup, groupsClaimName, issuer, httpTimeout,
    restrict⟩

def read (members : Members) : Checked ProviderConfig :=
  make
    <$> members.withDefault "force" false Reader.bool
    <*> members.required "client_id" Reader.nonEmptyText
    <*> members.required "client_secret" Reader.text
    <*> members.required "callback_url" Reader.text
    <*> members.required "authorization_endpoint" Reader.text
    <*> members.required "token_endpoint" Reader.text
    <*> members.required "userinfo_endpoint" Reader.text
    <*> members.required "base_url" Reader.text
    <*> members.withDefault "admin_group" none (.optional Reader.text)
    <*> members.withDefault "allow_group" none (.optional Reader.text)
    <*> members.withDefault "groups_claim_name" "groups" Reader.text
    <*> members.withDefault "issuer" none (.optional Reader.text)
    <*> members.withDefault "http_timeout" defaultTimeout Reader.float
    <*> members.withDefault "restrict_private_networks" false Reader.bool
    <*> members.onlyNames fieldNames

def shown (c : ProviderConfig) : ShownFields :=
  [("force", .bool c.force), ("client_id", .text c.clientId),
   ("client_secret", .secret c.clientSecret), ("callback_url", .text c.callbackUrl),
   ("authorization_endpoint", .text c.authorizationEndpoint),
   ("token_endpoint", .text c.tokenEndpoint), ("userinfo_endpoint", .text c.userinfoEndpoint),
   ("base_url", .text c.baseUrl), ("admin_group", .optionalText c.adminGroup),
   ("allow_group", .optionalText c.allowGroup), ("groups_claim_name", .text c.groupsClaimName),
   ("issuer", .optionalText c.issuer), ("http_timeout", .plain (.float c.httpTimeout)),
   ("restrict_private_networks", .bool c.restrictPrivateNetworks)]

def toRecord (c : ProviderConfig) : Record := .plain model true c.shown

end ProviderConfig

end OidcLogin
