import OidcLogin.Callback.Effect
import OidcLogin.Client.Oidc

namespace OidcLogin

inductive LoginEffect (User : Type)
  | net (effect : NetEffect)
  -- Random numbers below 62.
  | draw (count : Nat)
  | login (email name : Text) (administrator : Bool)
  | establish (request : CallbackRequest) (user : User)
  | audit (request : CallbackRequest) (user : User)

@[reducible]
def LoginEffect.Reply {User : Type} : LoginEffect User → Type
  | .net effect => effect.Reply
  | .draw count => Vector (Fin 62) count
  | .login .. => Except Failure User
  | .establish .. => Except Failure Unit
  | .audit .. => Except Failure Unit

abbrev LoginProgram (User α : Type) := Program (LoginEffect User) LoginEffect.Reply α

variable {User : Type}

def NetProgram.lift {α : Type} (program : NetProgram α) : LoginProgram User α :=
  program.interpret fun effect => .ask (.net effect) .done

-- What a callback's question means when this client answers for the protocol.
def OidcClient.answer (client : OidcClient) :
    (effect : CallbackEffect User) → LoginProgram User effect.Reply
  | .note n => .ask (.net (.note n)) .done
  | .exchangeCode code redirectUri => (client.exchangeCode code redirectUri).lift
  | .fetchUserInfo accessToken => (client.fetchUserInfo accessToken).lift
  | .login email name administrator => .ask (.login email name administrator) .done
  | .establish request user => .ask (.establish request user) .done
  | .audit request user => .ask (.audit request user) .done

def CallbackProgram.withClient {α : Type} (client : OidcClient) (program : CallbackProgram User α) :
    LoginProgram User α :=
  program.interpret client.answer

end OidcLogin
