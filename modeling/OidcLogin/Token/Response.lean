import OidcLogin.Record.Shown
import OidcLogin.Validation.Scalar

namespace OidcLogin

structure TokenResponse where
  accessToken : Text
  tokenType : Text
  idToken : Option Text
  refreshToken : Option Text
  expiresIn : Option Int
  scope : Option Text
deriving DecidableEq

namespace TokenResponse

def model : Text := "TokenResponse"

def read (members : Members) : Checked TokenResponse :=
  mk
    <$> members.required "access_token" Reader.nonEmptyText
    <*> members.required "token_type" Reader.text
    <*> members.withDefault "id_token" none (.optional Reader.text)
    <*> members.withDefault "refresh_token" none (.optional Reader.text)
    <*> members.withDefault "expires_in" none (.optional Reader.int)
    <*> members.withDefault "scope" none (.optional Reader.text)

def expiry (t : TokenResponse) : Shown := .plain ((t.expiresIn.map Json.int).getD .null)

def shown (t : TokenResponse) : ShownFields :=
  [("access_token", .text t.accessToken), ("token_type", .text t.tokenType),
   ("id_token", .optionalText t.idToken), ("refresh_token", .optionalText t.refreshToken),
   ("expires_in", t.expiry), ("scope", .optionalText t.scope)]

def repr (t : TokenResponse) : Text :=
  ShownFields.repr model
    [("token_type", .text t.tokenType), ("expires_in", t.expiry),
     ("scope", .optionalText t.scope)]

def toRecord (t : TokenResponse) : Record := .custom model false t.shown t.repr

def isBearer (t : TokenResponse) : Bool := t.tokenType.lower = "bearer"

end TokenResponse

end OidcLogin
