import OidcLogin.Failure.Basic
import OidcLogin.Provider.Config

namespace OidcLogin.Authorization

def standardScopes : List (Text × Text) :=
  [("OPENID", "openid"), ("PROFILE", "profile"), ("EMAIL", "email")]

-- The scopes of a login.  The groups claim is asked for when a group makes administrators.
def scopes (config : ProviderConfig) : List Text :=
  let standard := standardScopes.map (·.2)
  if config.adminGroup.isSome && !standard.contains config.groupsClaimName then
    standard ++ [config.groupsClaimName]
  else standard

def given (name value : Text) : Form.Pairs := if value.isEmpty then [] else [(name, value)]

def parameters (clientId : Text) (scopes : List Text) (state redirectUri : Text) : Form.Pairs :=
  let scope : Form.Pairs := if scopes.isEmpty then [] else [("scope", Text.join " " scopes)]
  let basic : Form.Pairs := [("response_type", "code"), ("client_id", clientId)]
  basic ++ given "redirect_uri" redirectUri ++ scope ++ given "state" state

def url (endpoint clientId : Text) (scopes : List Text) (state redirectUri : Text) :
    Except Failure Text :=
  match Url.split endpoint with
  | .error fault => .error (.unsplittable fault)
  | .ok parts =>
    let pairs := Form.decode true parts.query ++ parameters clientId scopes state redirectUri
    match Form.encode pairs with
    | .error fault => .error (.unencodable fault)
    | .ok query => .ok (Url.unsplit { parts with query := query })

def stateLength : Nat := 48

def stateAlphabet : Text := "abcdefghijklmnopqrstuvwxyzABCDEFGHIJKLMNOPQRSTUVWXYZ0123456789"

-- The state that drawn numbers stand for, one letter or digit for each.
def stateOf (draws : List (Fin 62)) : Text :=
  draws.map fun n => stateAlphabet.getD n.val (CodePoint.ofChar 'a')

end OidcLogin.Authorization
