import OidcLogin.Manager.Basic
import OidcLogin.Proofs.Program.Interpreted

namespace OidcLogin

open Program

inductive LoginOperation
  | authorizationRequest
  | authorizationUri
  | handleCallback (query : Text) (request : CallbackRequest) (expected : Option Text)

@[reducible]
def LoginOperation.Reply : LoginOperation → Type
  | .authorizationRequest => Except Failure AuthorizationRequest
  | .authorizationUri => Except Failure Text
  | .handleCallback .. => Except Failure Text

abbrev LoginUsage (α : Type) := Program LoginOperation LoginOperation.Reply α

variable {User α : Type}

namespace LoginManager

def perform (m : LoginManager) : (operation : LoginOperation) → LoginProgram User operation.Reply
  | .authorizationRequest => m.authorizationRequest
  | .authorizationUri => m.authorizationUri
  | .handleCallback query request expected => m.handleCallback query request expected

-- A manager that is closed when the body is over, whatever the body came to.
def within (config : ProviderConfig) (client : Option HttpClient) (oidc : Option OidcClient)
    (body : LoginManager → LoginProgram User α) : LoginProgram User α := do
  let manager ← make config client oidc
  let result ← body manager
  manager.close
  return result

end LoginManager

def LoginFacade.perform (f : LoginFacade) : (operation : LoginOperation) → LoginProgram User operation.Reply
  | .authorizationRequest => f.authorizationRequest
  | .authorizationUri => f.authorizationUri
  | .handleCallback query request expected => f.handleCallback query request expected

namespace LoginUsage

def inTurn : List LoginOperation → LoginUsage (List (Exchange LoginOperation.Reply))
  | [] => .done []
  | operation :: rest => .ask operation fun reply => do
    return ⟨operation, reply⟩ :: (← inTurn rest)

def byManager (config : ProviderConfig) (client : Option HttpClient) (oidc : Option OidcClient)
    (usage : LoginUsage α) : LoginProgram User α :=
  LoginManager.within config client oidc fun m => usage.interpret m.perform

def byFacade (f : LoginFacade) (usage : LoginUsage α) : LoginProgram User α := usage.interpret f.perform

end LoginUsage

theorem LoginFacade.perform_eq (f : LoginFacade) (operation : LoginOperation) :
    (f.perform operation : LoginProgram User operation.Reply)
      = LoginManager.within f.config none f.oidc fun m => m.perform operation := by
  cases operation with
  | authorizationRequest => rfl
  | authorizationUri =>
    change (LoginManager.within f.config none f.oidc LoginManager.authorizationRequest >>= fun result =>
      return result.map (·.url)) = _
    unfold LoginManager.within
    simp only [bind_assoc]
    rfl
  | handleCallback query request expected => rfl

end OidcLogin
