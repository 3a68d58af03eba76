import OidcLogin.Failure.Basic
import OidcLogin.Program.Basic
import OidcLogin.Telemetry.Basic

namespace OidcLogin

-- The client that sends requests: one that was handed in, or one that the login flow opened.
inductive HttpClient
  | given
  | opened (number : Nat)
deriving DecidableEq

structure ClientPolicy where
  timeout : Binary64
  -- Addresses of internal networks are refused.
  restrict : Bool
deriving DecidableEq

structure Timeouts (α : Type) where
  connect : α
  read : α
  write : α
  pool : α

def Timeouts.uniform {α : Type} (time : α) : Timeouts α := ⟨time, time, time, time⟩

def Timeouts.toList {α : Type} (t : Timeouts α) : List α := [t.connect, t.read, t.write, t.pool]

def ClientPolicy.timeouts (p : ClientPolicy) : Timeouts Binary64 := .uniform p.timeout

inductive NetEffect
  | note (n : Note)
  | send (client : HttpClient) (request : Http.Request)
  | openClient (policy : ClientPolicy)
  | closeClient (client : HttpClient)

@[reducible]
def NetEffect.Reply : NetEffect → Type
  | .note _ => Unit
  | .send .. => Http.Answer
  | .openClient _ => HttpClient
  | .closeClient _ => Unit

abbrev NetProgram (α : Type) := Program NetEffect NetEffect.Reply α

namespace NetProgram

def note (n : Note) : NetProgram Unit := .ask (.note n) .done

def noteAll : List Note → NetProgram Unit
  | [] => .done ()
  | n :: rest => .ask (.note n) fun _ => noteAll rest

def spanEvents (events : List Span.Event) : NetProgram Unit := noteAll (events.map Note.span)

def fetch (client : HttpClient) (method url : Text) (headers : Http.Headers) (content : Text) :
    NetProgram (Except Http.FetchFault (Http.Response × Json)) :=
  match Http.prepare method url headers content with
  | .error fault => .done (.error fault)
  | .ok request => .ask (.send client request) fun outcome => .done (Http.receive url request outcome)

end NetProgram

end OidcLogin
