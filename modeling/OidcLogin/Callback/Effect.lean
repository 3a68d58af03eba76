import OidcLogin.Failure.Basic
import OidcLogin.Program.Basic
import OidcLogin.Telemetry.Basic
import OidcLogin.Token.Response

namespace OidcLogin

-- The request that a callback came with; its query parameters may be null.
structure CallbackRequest where
  queryParams : List (Text × Option Text)
deriving DecidableEq

inductive CallbackEffect (User : Type)
  | note (n : Note)
  | exchangeCode (code redirectUri : Text)
  | fetchUserInfo (accessToken : Text)
  -- Find or create the local user.
  | login (email name : Text) (administrator : Bool)
  | establish (request : CallbackRequest) (user : User)
  | audit (request : CallbackRequest) (user : User)

@[reducible]
def CallbackEffect.Reply {User : Type} : CallbackEffect User → Type
  | .note _ => Unit
  | .exchangeCode .. => Except Failure TokenResponse
  | .fetchUserInfo _ => Except Failure Members
  | .login .. => Except Failure User
  | .establish .. => Except Failure Unit
  | .audit .. => Except Failure Unit

abbrev CallbackProgram (User α : Type) := Program (CallbackEffect User) CallbackEffect.Reply α

namespace CallbackProgram

variable {User : Type}

def noteAll : List Note → CallbackProgram User Unit
  | [] => .done ()
  | n :: rest => .ask (.note n) fun _ => noteAll rest

end CallbackProgram

end OidcLogin
