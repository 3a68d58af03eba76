import OidcLogin.Proofs.Callback.WithClient
import OidcLogin.Proofs.Client.Sends
import OidcLogin.Proofs.Manager.Usage

namespace OidcLogin

open Program

variable {User α : Type} {config : ProviderConfig} {client : HttpClient} {oidc : Option OidcClient}

-- Notes, and requests that this client sends; no client is opened or closed.
def NetEffect.Keeps (client : HttpClient) : NetEffect → Prop
  | .note _ => True
  | .send other _ => other = client
  | .openClient _ | .closeClient _ => False

def OidcClient.CanAsk (oidc : OidcClient) (effect : NetEffect) : Prop :=
  (∃ code redirectUri, (oidc.exchangeCode code redirectUri).CanAsk effect)
    ∨ ∃ accessToken, (oidc.fetchUserInfo accessToken).CanAsk effect

-- What is asked of the network by a login with this client, where `oidc` may have been handed in to take the place
-- of the protocol's client over HTTP.
def NetEffect.Within (oidc : Option OidcClient) (client : HttpClient) (effect : NetEffect) : Prop :=
  effect.Keeps client ∨ ∃ given, oidc = some given ∧ given.CanAsk effect

def StaysWithin (oidc : Option OidcClient) (client : HttpClient) (history : List (LoginExchange User)) : Prop :=
  ∀ exchange ∈ history, exchange.1.Only (NetEffect.Within oidc client)

-- A client is opened under the policy of the configuration, used, and closed at the end.
def OwnsItsClient (config : ProviderConfig) (oidc : Option OidcClient) (history : List (LoginExchange User)) : Prop :=
  ∃ client during, history
      = ⟨.net (.openClient ⟨config.httpTimeout, config.restrictPrivateNetworks⟩), client⟩
        :: (during ++ [⟨.net (.closeClient client), ()⟩])
    ∧ StaysWithin oidc client during

theorem OidcClient.asks_exchangeCode (code redirectUri : Text) :
    Asks (NetEffect.Within oidc client) ((oidc.getD (.overHttp config client)).exchangeCode code redirectUri) := by
  cases oidc with
  | none => exact TokenExchange.only_exchange (fun _ _ _ => .inl trivial) fun _ _ _ _ _ => .inl rfl
  | some given =>
    apply (asks_canAsk (given.exchangeCode code redirectUri)).mono
    intro effect asked
    exact .inr ⟨given, rfl, .inl ⟨code, redirectUri, asked⟩⟩

theorem OidcClient.asks_fetchUserInfo (accessToken : Text) :
    Asks (NetEffect.Within oidc client) ((oidc.getD (.overHttp config client)).fetchUserInfo accessToken) := by
  cases oidc with
  | none => exact UserInfo.only_fetch (fun _ _ _ => .inl trivial) fun _ _ => .inl rfl
  | some given =>
    apply (asks_canAsk (given.fetchUserInfo accessToken)).mono
    intro effect asked
    exact .inr ⟨given, rfl, .inr ⟨accessToken, asked⟩⟩

namespace LoginManager

def holding (config : ProviderConfig) (oidc : Option OidcClient) (client : HttpClient) (owned : Bool) :
    LoginManager :=
  ⟨config, client, owned, oidc.getD (.overHttp config client)⟩

variable {owned : Bool}

theorem asks_perform (operation : LoginOperation) :
    Asks (LoginEffect.Only (NetEffect.Within oidc client) : LoginEffect User → Prop)
      ((holding config oidc client owned).perform operation) := by
  have request : Asks (LoginEffect.Only (NetEffect.Within oidc client) : LoginEffect User → Prop)
      (holding config oidc client owned).authorizationRequest :=
    .ask trivial fun _ => .done trivial
  cases operation with
  | authorizationRequest => exact request
  | authorizationUri => exact asks_bind request fun _ => .done trivial
  | handleCallback query callback expected =>
    apply CallbackProgram.only_withClient
    · intro n
      exact .inl trivial
    · exact OidcClient.asks_exchangeCode
    · exact OidcClient.asks_fetchUserInfo

theorem asks_usage (usage : LoginUsage α) :
    Asks (LoginEffect.Only (NetEffect.Within oidc client) : LoginEffect User → Prop)
      (usage.interpret (holding config oidc client owned).perform) :=
  asks_interpret (asks_anything usage) fun operation _ => asks_perform operation

theorem runs_within_none {body : LoginManager → LoginProgram User α} {history : List (LoginExchange User)}
    {result : α} (runs : Runs (within config none oidc body) history result) :
    ∃ client during, history
        = ⟨.net (.openClient ⟨config.httpTimeout, config.restrictPrivateNetworks⟩), client⟩
          :: (during ++ [⟨.net (.closeClient client), ()⟩])
      ∧ Runs (body (holding config oidc client true)) during result := by
  obtain ⟨client, rest, rfl, after⟩ := runs_ask.1 runs
  have opened : Runs (body (holding config oidc client true) >>= fun result =>
      (holding config oidc client true).close >>= fun _ => return result) rest result := after
  obtain ⟨during, value, last, rfl, inside, closing⟩ := runs_bind.1 opened
  obtain ⟨_, nothing, rfl, ended⟩ := runs_ask.1 closing
  obtain ⟨rfl, rfl⟩ := runs_done.1 ended
  exact ⟨client, during, rfl, inside⟩

theorem runs_within_some {body : LoginManager → LoginProgram User α} {history : List (LoginExchange User)}
    {result : α} (runs : Runs (within config (some client) oidc body) history result) :
    Runs (body (holding config oidc client false)) history result := by
  have given : Runs (body (holding config oidc client false) >>= fun result =>
      (holding config oidc client false).close >>= fun _ => return result) history result := runs
  obtain ⟨during, value, last, rfl, inside, closing⟩ := runs_bind.1 given
  obtain ⟨rfl, rfl⟩ := runs_done.1 closing
  rw [List.append_nil]
  exact inside

theorem ownsItsClient_of_within {body : LoginManager → LoginProgram User α}
    (asks : ∀ client, Asks (LoginEffect.Only (NetEffect.Within oidc client))
      (body (holding config oidc client true)))
    {history : List (LoginExchange User)} {result : α} (runs : Runs (within config none oidc body) history result) :
    OwnsItsClient config oidc history := by
  obtain ⟨client, during, rfl, inside⟩ := runs_within_none runs
  exact ⟨client, during, rfl, ((asks client).of_runs inside).1⟩

end LoginManager

theorem LoginFacade.ownsItsClient {f : LoginFacade} {operation : LoginOperation}
    {history : List (LoginExchange User)} {result : operation.Reply}
    (runs : Runs (f.perform operation) history result) : OwnsItsClient f.config f.oidc history := by
  rw [LoginFacade.perform_eq] at runs
  exact LoginManager.ownsItsClient_of_within (fun _ => LoginManager.asks_perform operation) runs

end OidcLogin
