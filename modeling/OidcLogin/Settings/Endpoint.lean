import OidcLogin.Failure.Basic

namespace OidcLogin

def checkEndpoint (name : Text) (value : Option Text) (allowHttp : Bool) :
    Except SettingFault Text :=
  match value with
  | none => .error (.missing name)
  | some [] => .error (.missing name)
  | some url =>
    match Url.split url with
    | .error _ => .error (.malformed name url true)
    | .ok parts =>
      if (parts.scheme != "http" && parts.scheme != "https") || parts.authority.isEmpty then
        .error (.malformed name url false)
      else if parts.scheme = "http" && !allowHttp then .error (.plainHttp name url)
      else .ok url

end OidcLogin
