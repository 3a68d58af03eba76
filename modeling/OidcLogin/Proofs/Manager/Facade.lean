import OidcLogin.Proofs.Manager.Clients
import OidcLogin.Proofs.Program.Lockstep

namespace OidcLogin

open Program

variable {User α : Type}

-- What is seen of a login from outside, each thing with its answer.
inductive Seen (User : Type)
  | note (n : Note)
  | sent (request : Http.Request) (outcome : Http.Answer)
  | drawn (count : Nat) (numbers : Vector (Fin 62) count)
  | login (email name : Text) (administrator : Bool) (reply : Except Failure User)
  | establish (request : CallbackRequest) (user : User) (reply : Except Failure Unit)
  | audit (request : CallbackRequest) (user : User) (reply : Except Failure Unit)

-- Surroundings that answer by what was seen before and keep no account of HTTP clients.
structure Surroundings (User : Type) where
  opened : List (Seen User) → ClientPolicy → HttpClient
  respond : List (Seen User) → Http.Request → Http.Answer
  draw : List (Seen User) → (count : Nat) → Vector (Fin 62) count
  login : List (Seen User) → Text → Text → Bool → Except Failure User
  establish : List (Seen User) → CallbackRequest → User → Except Failure Unit
  audit : List (Seen User) → CallbackRequest → User → Except Failure Unit

namespace Surroundings

def answerNet (s : Surroundings User) : (effect : NetEffect) → List (Seen User) → effect.Reply × List (Seen User)
  | .note n, seen => ((), seen ++ [.note n])
  | .send _ request, seen => (s.respond seen request, seen ++ [.sent request (s.respond seen request)])
  | .openClient policy, seen => (s.opened seen policy, seen)
  | .closeClient _, seen => ((), seen)

def answer (s : Surroundings User) :
    (effect : LoginEffect User) → List (Seen User) → effect.Reply × List (Seen User)
  | .net effect, seen => s.answerNet effect seen
  | .draw count, seen => (s.draw seen count, seen ++ [.drawn count (s.draw seen count)])
  | .login email name administrator, seen =>
    let reply := s.login seen email name administrator
    (reply, seen ++ [.login email name administrator reply])
  | .establish request user, seen =>
    let reply := s.establish seen request user
    (reply, seen ++ [.establish request user reply])
  | .audit request user, seen =>
    let reply := s.audit seen request user
    (reply, seen ++ [.audit request user reply])

-- What a program comes to here after some things were seen, and all that is seen then.
def watch (s : Surroundings User) (program : LoginProgram User α) (seen : List (Seen User)) :
    α × List (Seen User) :=
  program.run s.answer seen

variable {s : Surroundings User} {config : ProviderConfig} {oidc : Option OidcClient} {seen : List (Seen User)}

theorem watch_bind {β : Type} (program : LoginProgram User α) (f : α → LoginProgram User β) :
    s.watch (program >>= f) seen = s.watch (f (s.watch program seen).1) (s.watch program seen).2 :=
  run_bind s.answer program f seen

theorem watch_settled {β : Type} (client other : HttpClient) (method url : Text) (headers : Http.Headers)
    (content : Text) (settle : Except Http.FetchFault (Http.Response × Json) → NetProgram β) :
    s.watch (NetProgram.lift (NetProgram.fetch client method url headers content >>= settle)) seen
      = s.watch (NetProgram.lift (NetProgram.fetch other method url headers content >>= settle)) seen := by
  unfold NetProgram.fetch
  cases Http.prepare method url headers content with
  | error fault => rfl
  | ok request => rfl

theorem watch_answer (client other : HttpClient) (effect : CallbackEffect User) :
    s.watch ((oidc.getD (.overHttp config client)).answer effect) seen
      = s.watch ((oidc.getD (.overHttp config other)).answer effect) seen := by
  cases oidc with
  | some given => rfl
  | none =>
    cases effect with
    | exchangeCode code redirectUri =>
      change s.watch (TokenExchange.exchange config client (some code) (some redirectUri)).lift seen
        = s.watch (TokenExchange.exchange config other (some code) (some redirectUri)).lift seen
      unfold TokenExchange.exchange
      cases TokenExchange.prepare config (some code) (some redirectUri) with
      | error failure => rfl
      | ok form => apply watch_settled
    | fetchUserInfo accessToken => apply watch_settled
    | note _ | login _ _ _ | establish _ _ | audit _ _ => rfl

theorem watch_perform (client other : HttpClient) (owned alsoOwned : Bool) (operation : LoginOperation)
    (seen : List (Seen User)) :
    s.watch ((LoginManager.holding config oidc client owned).perform operation) seen
      = s.watch ((LoginManager.holding config oidc other alsoOwned).perform operation) seen := by
  have requests (m : LoginManager) : (m.authorizationRequest : LoginProgram User _)
      = .ask (.draw Authorization.stateLength) fun draws => .done (m.requestOf (Authorization.stateOf draws.toList)) :=
    rfl
  have request (state : Text) : (LoginManager.holding config oidc client owned).requestOf state
      = (LoginManager.holding config oidc other alsoOwned).requestOf state := by
    cases oidc with
    | none => rfl
    | some given => rfl
  have begun : (LoginManager.holding config oidc client owned).authorizationRequest
      = ((LoginManager.holding config oidc other alsoOwned).authorizationRequest : LoginProgram User _) := by
    simp only [requests, request]
  cases operation with
  | authorizationRequest => exact congrArg (s.watch · seen) begun
  | authorizationUri =>
    change s.watch ((LoginManager.holding config oidc client owned).authorizationRequest >>= _) seen = _
    rw [begun]
    rfl
  | handleCallback query callback expected =>
    exact run_interpret_eq (fun effect _ => watch_answer client other effect) _ seen

-- Whether it is given a client or opens one, what a manager does for a body is seen as the body itself.
theorem watch_within (given : Option HttpClient) (body : LoginManager → LoginProgram User α)
    (seen : List (Seen User)) :
    ∃ client owned, s.watch (LoginManager.within config given oidc body) seen
      = s.watch (body (LoginManager.holding config oidc client owned)) seen := by
  cases given with
  | none =>
    let client := s.opened seen ⟨config.httpTimeout, config.restrictPrivateNetworks⟩
    let m := LoginManager.holding config oidc client true
    refine ⟨client, true, ?_⟩
    change s.watch (body m >>= fun result => m.close >>= fun _ => return result) seen = _
    rw [watch_bind]
    rfl
  | some client =>
    let m := LoginManager.holding config oidc client false
    refine ⟨client, false, ?_⟩
    change s.watch (body m >>= fun result => m.close >>= fun _ => return result) seen = _
    rw [watch_bind]
    rfl

theorem watch_facade (given : Option HttpClient) (usage : LoginUsage α) (seen : List (Seen User)) :
    s.watch (usage.byFacade ⟨config, oidc⟩) seen = s.watch (usage.byManager config given oidc) seen := by
  obtain ⟨client, owned, whole⟩ := watch_within given (fun m => usage.interpret m.perform) seen
  unfold LoginUsage.byFacade LoginUsage.byManager
  rw [whole]
  apply run_interpret_eq
  intro operation seen
  rw [LoginFacade.perform_eq]
  obtain ⟨other, alsoOwned, single⟩ := watch_within none (fun m => m.perform operation) seen
  exact single.trans (watch_perform other client alsoOwned owned operation seen)

end Surroundings

-- By a facade a usage comes to the same as by one manager, with the same results, requests, calls of the host
-- application and notes.  The facade opens a client for each call and has closed it when the call is over; the
-- manager closes the client that it opened when its body is over; and one that it was given it never closes.
theorem facade_equals_manager (config : ProviderConfig) (oidc : Option OidcClient) (usage : LoginUsage α) :
    (∀ (given : Option HttpClient) (s : Surroundings User),
        s.watch (usage.byFacade ⟨config, oidc⟩) [] = s.watch (usage.byManager config given oidc) [])
      ∧ (∀ (history : List (LoginExchange User)) (result : α),
          Runs (usage.byFacade ⟨config, oidc⟩) history result →
          ∃ calls segments, Runs usage calls result ∧ history = segments.flatten
            ∧ List.Forall₂ (fun call segment =>
              Runs ((⟨config, oidc⟩ : LoginFacade).perform call.1) segment call.2
                ∧ OwnsItsClient config oidc segment) calls segments)
      ∧ (∀ (history : List (LoginExchange User)) (result : α),
          Runs (usage.byManager config none oidc) history result → OwnsItsClient config oidc history)
      ∧ ∀ (client : HttpClient) (history : List (LoginExchange User)) (result : α),
          Runs (usage.byManager config (some client) oidc) history result → StaysWithin oidc client history := by
  refine ⟨?_, ?_, ?_, ?_⟩
  · intro given s
    exact Surroundings.watch_facade given usage []
  · intro history result runs
    obtain ⟨calls, segments, used, rfl, each⟩ := runs_interpret runs
    exact ⟨calls, segments, used, rfl, each.imp fun _ _ asked => ⟨asked, LoginFacade.ownsItsClient asked⟩⟩
  · intro history result runs
    exact LoginManager.ownsItsClient_of_within (fun _ => LoginManager.asks_usage usage) runs
  · intro client history result runs
    exact ((LoginManager.asks_usage usage).of_runs (LoginManager.runs_within_some runs)).1

theorem facade_equals_manager_of_two_calls :
    let usage := LoginUsage.inTurn
      [.authorizationRequest, .handleCallback "error=access_denied" Sample.request none]
    ∃ (history first second : List (LoginExchange Text)) (results : List (Exchange LoginOperation.Reply)),
      Runs (usage.byFacade ⟨Sample.config, none⟩) history results ∧ history = first ++ second
        ∧ OwnsItsClient Sample.config none first ∧ OwnsItsClient Sample.config none second := by
  intro usage
  obtain ⟨history, runs, _⟩ := exists_runs Sample.silence (usage.byFacade ⟨Sample.config, none⟩)
  obtain ⟨calls, segments, used, rfl, each⟩ := (facade_equals_manager Sample.config none usage).2.1 history _ runs
  obtain ⟨begun, rest, rfl, after⟩ := runs_ask.1 used
  obtain ⟨denied, others, rfl, ended⟩ := runs_ask.1 after
  obtain ⟨rfl, _⟩ := runs_done.1 ended
  cases each with
  | cons first later =>
    cases later with
    | cons second nothing =>
      cases nothing
      exact ⟨_, _, _, _, runs, by simp, first.2, second.2⟩

end OidcLogin
