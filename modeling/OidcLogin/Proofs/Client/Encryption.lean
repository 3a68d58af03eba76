import OidcLogin.Manager.Basic
import OidcLogin.Proofs.Callback.WithClient
import OidcLogin.Proofs.Provider.Resolution
import OidcLogin.Proofs.Provider.WellKnown

namespace OidcLogin

open Program

-- The request is not one over plain HTTP, and if it names a place it is one over HTTPS.
structure Http.Request.IsEncrypted (request : Http.Request) : Prop where
  notPlain : request.url.scheme ≠ "http"
  https : request.url.isAbsolute = true → request.url.scheme = "https"

theorem isEncrypted_of_schemeOf {method url content : Text} {headers : Http.Headers} {request : Http.Request}
    (full : Url.authorityOf url ≠ []) (https : Url.schemeOf url = "https")
    (made : Http.prepare method url headers content = .ok request) : request.IsEncrypted := by
  rcases RequestUrl.forRequest_agrees full (Http.prepare_eq_ok.1 made).1 with ⟨nowhere, _⟩ | ⟨_, same, _⟩
  · refine ⟨?_, fun absolute => ?_⟩
    · rw [nowhere]; decide
    · rw [RequestUrl.isAbsolute, nowhere] at absolute
      cases absolute
  · rw [https] at same
    refine ⟨?_, fun _ => same⟩
    rw [same]; decide

theorem Accepts.isEncrypted {method url content : Text} {headers : Http.Headers} {request : Http.Request}
    (accepts : Accepts false url) (made : Http.prepare method url headers content = .ok request) :
    request.IsEncrypted := by
  rcases accepts.schemeOf with https | ⟨_, impossible⟩
  · exact isEncrypted_of_schemeOf accepts.authorityOf_ne_nil https made
  · cases impossible

theorem AsksIssuer.isEncrypted {s : Settings} {request : Http.Request} (policy : s.unsafeLocalDev = false)
    (asked : AsksIssuer s request) : request.IsEncrypted := by
  obtain ⟨issuer, _, accepts, made⟩ := asked
  obtain ⟨sameScheme, sameAuthority⟩ := Discovery.place_url accepts.schemeOf_ne_nil accepts.authorityOf_ne_nil
  rw [policy] at accepts
  rcases accepts.schemeOf with https | ⟨_, impossible⟩
  · exact isEncrypted_of_schemeOf (sameAuthority ▸ accepts.authorityOf_ne_nil) (sameScheme.trans https) made
  · cases impossible

theorem Url.startsWith_unsplit {parts : Url.Parts} (https : parts.scheme = "https")
    (full : parts.authority ≠ []) : (Url.unsplit parts).startsWith "https://" = true := by
  have notEmpty : parts.authority.isEmpty = false := by simpa using full
  refine List.isPrefixOf_iff_prefix.2 ?_
  unfold Url.unsplit Url.withAuthority
  rw [https, notEmpty, Bool.not_false, Bool.true_or, if_pos rfl]
  exact ⟨_, by simp [Text.ofString]; rfl⟩

theorem Accepts.startsWith_url {endpoint clientId state redirectUri url : Text} {scopes : List Text}
    (accepts : Accepts false endpoint)
    (made : Authorization.url endpoint clientId scopes state redirectUri = .ok url) :
    url.startsWith "https://" = true := by
  obtain ⟨parts, split, accepted⟩ := accepts
  rcases accepted.scheme with https | ⟨_, impossible⟩
  · unfold Authorization.url at made
    rw [split] at made
    dsimp only at made
    split at made
    · cases made
    · cases made
      exact Url.startsWith_unsplit https accepted.authority
  · cases impossible

-- Whatever is done with a configuration, nothing is sent over plain HTTP and the browser is led to HTTPS.
structure StaysEncrypted (User : Type) (config : ProviderConfig) (client : HttpClient) : Prop where
  exchange : ∀ code redirectUri history result,
    Runs (TokenExchange.exchange config client code redirectUri) history result →
      ∀ exchange ∈ history, exchange.1.Sends Http.Request.IsEncrypted
  fetch : ∀ accessToken history result,
    Runs (UserInfo.fetch config client accessToken) history result →
      ∀ exchange ∈ history, exchange.1.Sends Http.Request.IsEncrypted
  handle : ∀ (handler : CallbackHandler) query request expected (history : List (LoginExchange User)) result,
    Runs ((handler.handle query request expected).withClient (.overHttp config client)) history result →
      ∀ exchange ∈ history, exchange.1.Sends Http.Request.IsEncrypted
  authorization : ∀ owned (history : List (LoginExchange User)) request,
    Runs (LoginManager.authorizationRequest ⟨config, client, owned, .overHttp config client⟩) history
      (.ok request) → request.url.startsWith "https://" = true
  authorizationUrl : ∀ scopes state redirectUri url,
    (OidcClient.overHttp config client).authorizationUrl scopes state redirectUri = .ok url →
      url.startsWith "https://" = true

theorem Settled.staysEncrypted {s : Settings} {config : ProviderConfig} (policy : s.unsafeLocalDev = false)
    (settled : Settled s config) (User : Type) (client : HttpClient) : StaysEncrypted User config client := by
  have exchanges : ∀ code redirectUri, Asks (NetEffect.Sends Http.Request.IsEncrypted)
      (TokenExchange.exchange config client code redirectUri) :=
    fun code redirectUri => TokenExchange.asks_exchange fun _ _ _ _ made =>
      (policy ▸ settled.token).isEncrypted made
  have fetches : ∀ accessToken, Asks (NetEffect.Sends Http.Request.IsEncrypted)
      (UserInfo.fetch config client accessToken) :=
    fun accessToken => UserInfo.asks_fetch fun _ made => (policy ▸ settled.userinfo).isEncrypted made
  have begins : ∀ scopes state redirectUri url,
      (OidcClient.overHttp config client).authorizationUrl scopes state redirectUri = .ok url →
        url.startsWith "https://" = true :=
    fun scopes state redirectUri url made => (policy ▸ settled.authorization).startsWith_url made
  constructor
  case exchange =>
    intro code redirectUri history result runs
    exact ((exchanges code redirectUri).of_runs runs).1
  case fetch =>
    intro accessToken history result runs
    exact ((fetches accessToken).of_runs runs).1
  case handle =>
    intro handler query request expected history result runs
    have asks : Asks (LoginEffect.Sends Http.Request.IsEncrypted : LoginEffect User → Prop)
        ((handler.handle query request expected).withClient (.overHttp config client)) :=
      CallbackProgram.asks_withClient (fun code redirectUri => exchanges (some code) (some redirectUri)) fetches
    exact (asks.of_runs runs).1
  case authorization =>
    intro owned history request runs
    obtain ⟨draws, rest, _, after⟩ := runs_ask.1 runs
    obtain ⟨url, made, rfl⟩ := except_map_eq_ok.1 (runs_done.1 after).2.symm
    exact begins _ _ _ _ made
  case authorizationUrl => exact begins

-- Whatever the issuer answers, no step of resolution and of the login flow sends over plain HTTP.
theorem sends_nothing_over_plain_http {s : Settings} {given : Option HttpClient} {before : List NetExchange}
    {resolved : Except Failure ProviderConfig} (policy : s.unsafeLocalDev = false)
    (resolving : Runs (Resolution.resolve s given) before resolved) :
    (∀ exchange ∈ before, exchange.1.Sends Http.Request.IsEncrypted)
      ∧ ∀ config, resolved = .ok config →
          ∀ (User : Type) (client : HttpClient), StaysEncrypted User config client := by
  obtain ⟨asked, settled⟩ := (Resolution.meets_resolve s given).of_runs resolving
  constructor
  · intro exchange member
    obtain ⟨effect, reply⟩ := exchange
    cases effect with
    | send client request => exact AsksIssuer.isEncrypted policy (asked _ member)
    | note _ | openClient _ | closeClient _ => trivial
  · intro config same User client
    exact (settled config same).staysEncrypted policy User client

theorem sends_nothing_over_plain_http_of_sample :
    Sample.settings.unsafeLocalDev = false
      ∧ ∃ before, Runs (Resolution.resolve Sample.settings none) before (.ok Sample.resolved)
        ∧ StaysEncrypted Text Sample.resolved .given := by
  obtain ⟨before, resolving⟩ := Sample.runs_resolve
  exact ⟨rfl, before, resolving, (sends_nothing_over_plain_http rfl resolving).2 _ rfl Text .given⟩

end OidcLogin
