import OidcLogin.Record.Shown
import OidcLogin.Validation.Scalar

namespace OidcLogin

structure AuthorizationRequest where
  url : Text
  state : Text
  scopes : List Text
  redirectUri : Text
  responseType : Text
deriving DecidableEq

namespace AuthorizationRequest

def model : Text := "AuthorizationRequest"

def codeType : Text := "code"

def read (members : Members) : Checked AuthorizationRequest :=
  mk
    <$> members.required "url" Reader.text
    <*> members.required "state" Reader.text
    <*> members.required "scopes" (.list Reader.text)
    <*> members.required "redirect_uri" Reader.text
    <*> members.withDefault "response_type" codeType (.literal codeType)

def shown (r : AuthorizationRequest) : ShownFields :=
  [("url", .text r.url), ("state", .text r.state), ("scopes", .texts r.scopes),
   ("redirect_uri", .text r.redirectUri), ("response_type", .text r.responseType)]

def repr (r : AuthorizationRequest) : Text :=
  ShownFields.repr model
    [("scopes", .texts r.scopes), ("redirect_uri", .text r.redirectUri),
     ("state", .text "<REDACTED>")]

def toRecord (r : AuthorizationRequest) : Record := .custom model true r.shown r.repr

end AuthorizationRequest

end OidcLogin
