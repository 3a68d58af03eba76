import OidcLogin.Record.Shown
import OidcLogin.Validation.Scalar

namespace OidcLogin

structure ProviderMetadata where
  issuer : Text
  authorizationEndpoint : Text
  tokenEndpoint : Text
  userinfoEndpoint : Text
deriving DecidableEq

namespace ProviderMetadata

def model : Text := "ProviderMetadata"

def read (members : Members) : Checked ProviderMetadata :=
  mk
    <$> members.required "issuer" Reader.nonEmptyText
    <*> members.required "authorization_endpoint" Reader.nonEmptyText
    <*> members.required "token_endpoint" Reader.nonEmptyText
    <*> members.required "userinfo_endpoint" Reader.nonEmptyText

def shown (m : ProviderMetadata) : ShownFields :=
  [("issuer", .text m.issuer), ("authorization_endpoint", .text m.authorizationEndpoint),
   ("token_endpoint", .text m.tokenEndpoint), ("userinfo_endpoint", .text m.userinfoEndpoint)]

def toRecord (m : ProviderMetadata) : Record := .plain model true m.shown

end ProviderMetadata

end OidcLogin
