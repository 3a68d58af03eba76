import OidcLogin.Proofs.Http.Credentials
import OidcLogin.Proofs.Provider.Resolution
import OidcLogin.Proofs.Provider.WellKnown
import OidcLogin.Proofs.Url.UserInfo

namespace OidcLogin

open Program

-- The request goes to a place, and its address names a user there.
def Http.Request.NamesUser (request : Http.Request) (address : Text) : Prop :=
  request.url.isAbsolute = true ∧ Url.NamesUser address

-- The request has the name and the password that these octets are.
def Http.Request.NamesAs (request : Http.Request) (octets : Bytes) : Prop :=
  ∃ name password, request.url.credentials? = some (name, password) ∧ Http.pairOctets name password = octets

section Carried

variable {method address content : Text} {headers : Http.Headers} {request : Http.Request}

theorem credentials?_of_prepare (full : Url.authorityOf address ≠ [])
    (made : Http.prepare method address headers content = .ok request) :
    request.url.credentials? = none ↔ ¬ request.NamesUser address := by
  rw [RequestUrl.credentials?_of_forRequest full (Http.prepare_eq_ok.1 made).1, Http.Request.NamesUser,
    not_and_or, Bool.not_eq_true]

-- A request carries what it is given, or the Basic authorization of the user that its address names.
theorem carried (full : Url.authorityOf address ≠ [])
    (made : Http.prepare method address headers content = .ok request) :
    ¬ request.NamesUser address ∧ request.authorization = headers.get? "Authorization"
      ∨ request.NamesUser address ∧ ∃ octets, request.NamesAs octets
          ∧ request.authorization = some (Http.basicAuthorization octets) := by
  have authorization := Http.authorization_of_prepare made
  have same := credentials?_of_prepare full made
  cases found : request.url.credentials? with
  | none =>
    rw [found] at authorization
    exact .inl ⟨same.1 found, authorization⟩
  | some pair =>
    obtain ⟨name, password⟩ := pair
    rw [found] at authorization
    have names : request.NamesUser address := by
      by_contra nobody
      rw [same.2 nobody] at found
      cases found
    exact .inr ⟨names, _, ⟨name, password, found, rfl⟩, authorization⟩

theorem carries_basic {meant : Bytes} (full : Url.authorityOf address ≠ [])
    (given : headers.get? "Authorization" = some (Http.basicAuthorization meant))
    (made : Http.prepare method address headers content = .ok request) :
    request.authorization = some (Http.basicAuthorization meant)
      ↔ ¬ request.NamesUser address ∨ request.NamesAs meant := by
  rcases carried full made with ⟨nobody, same⟩ | ⟨names, octets, as, same⟩
  · rw [same, given]
    exact iff_of_true rfl (.inl nobody)
  · rw [same]
    constructor
    · intro equal
      obtain rfl := Http.basicAuthorization_injective (Option.some.inj equal)
      exact .inr as
    · intro allowed
      obtain ⟨name, password, found, rfl⟩ := as
      rcases allowed with nobody | ⟨_, _, other, rfl⟩
      · exact absurd names nobody
      · rw [found] at other
        cases other
        rfl

theorem carries_other {meant : Option Text} (full : Url.authorityOf address ≠ [])
    (given : headers.get? "Authorization" = meant)
    (other : ∀ octets, meant ≠ some (Http.basicAuthorization octets))
    (made : Http.prepare method address headers content = .ok request) :
    request.authorization = meant ↔ ¬ request.NamesUser address := by
  rcases carried full made with ⟨nobody, same⟩ | ⟨names, octets, _, same⟩
  · rw [same, given]
    exact iff_of_true rfl nobody
  · rw [same]
    constructor
    · intro equal
      exact absurd equal.symm (other octets)
    · intro nobody
      exact absurd names nobody

end Carried

namespace TokenExchange

-- Name and secret with a colon between them, one octet for each character.
def applicationOctets (config : ProviderConfig) : Bytes :=
  (config.clientId ++ CodePoint.ofChar ':' :: config.clientSecret).map fun c => UInt8.ofNat c.val

theorem get?_formHeaders (authorization : Text) :
    (formHeaders authorization).get? "Authorization" = some authorization := by
  change some (Text.join ", " [authorization]) = some authorization
  rw [Text.join_singleton]

theorem authorization_of_prepare {config : ProviderConfig} {code redirectUri : Option Text}
    {body authorization : Text} (made : prepare config code redirectUri = .ok (body, authorization)) :
    authorization = Http.basicAuthorization (applicationOctets config) := by
  obtain ⟨_, octets, _, _, written, rfl⟩ := prepare_eq_ok.1 made
  obtain ⟨_, rfl⟩ := Text.encode_eq_ok.1 written
  rw [applicationOctets, List.map_eq_flatMap]
  rfl

end TokenExchange

theorem UserInfo.get?_headers (accessToken : Text) :
    (UserInfo.headers accessToken).get? "Authorization" = some ("Bearer " ++ accessToken) := by
  change some (Text.join ", " ["Bearer " ++ accessToken]) = some ("Bearer " ++ accessToken)
  rw [Text.join_singleton]

theorem bearer_ne_basic (accessToken : Text) (octets : Bytes) :
    ("Bearer " ++ accessToken : Text) ≠ Http.basicAuthorization octets := by
  intro same
  have second : CodePoint.ofChar 'e' = CodePoint.ofChar 'a' :=
    Option.some.inj (congrArg (fun t : Text => t[1]?) same)
  exact absurd second (by decide)

-- Everybody gets the credentials that are meant for them, unless their address names somebody else.
theorem credentials_on_the_wire {s : Settings} {given : Option HttpClient} {before : List NetExchange}
    {resolved : Except Failure ProviderConfig} (resolving : Runs (Resolution.resolve s given) before resolved) :
    (∀ exchange ∈ before, exchange.1.Sends fun request =>
      ∃ issuer, s.issuerUrl = some issuer
        ∧ (request.authorization = none ↔ ¬ request.NamesUser issuer))
      ∧ ∀ config, resolved = .ok config → ∀ client : HttpClient,
          (∀ code redirectUri history result,
            Runs (TokenExchange.exchange config client code redirectUri) history result →
              ∀ exchange ∈ history, exchange.1.Sends fun request =>
                (request.authorization
                    = some ("Basic " ++ Base64.encode (TokenExchange.applicationOctets config))
                  ↔ ¬ request.NamesUser config.tokenEndpoint
                    ∨ request.NamesAs (TokenExchange.applicationOctets config)))
          ∧ ∀ accessToken history result,
              Runs (UserInfo.fetch config client accessToken) history result →
                ∀ exchange ∈ history, exchange.1.Sends fun request =>
                  (request.authorization = some ("Bearer " ++ accessToken)
                    ↔ ¬ request.NamesUser config.userinfoEndpoint) := by
  obtain ⟨asked, settled⟩ := (Resolution.meets_resolve s given).of_runs resolving
  constructor
  · intro exchange member
    obtain ⟨effect, reply⟩ := exchange
    cases effect with
    | send client request =>
      obtain ⟨issuer, source, accepts, made⟩ := asked _ member
      obtain ⟨_, sameAuthority⟩ := Discovery.place_url accepts.schemeOf_ne_nil accepts.authorityOf_ne_nil
      have sameUser : request.NamesUser (Discovery.url issuer) ↔ request.NamesUser issuer := by
        unfold Http.Request.NamesUser Url.NamesUser
        rw [sameAuthority]
      refine ⟨issuer, source, ?_⟩
      rw [← sameUser]
      exact carries_other (sameAuthority ▸ accepts.authorityOf_ne_nil) rfl (by simp) made
    | note _ | openClient _ | closeClient _ => trivial
  · intro config same client
    have places := settled config same
    constructor
    · intro code redirectUri history result runs
      refine ((TokenExchange.asks_exchange fun body authorization request form made => ?_).of_runs runs).1
      obtain rfl := TokenExchange.authorization_of_prepare form
      exact carries_basic places.token.authorityOf_ne_nil (TokenExchange.get?_formHeaders _) made
    · intro accessToken history result runs
      refine ((UserInfo.asks_fetch fun request made => ?_).of_runs runs).1
      refine carries_other places.userinfo.authorityOf_ne_nil (UserInfo.get?_headers accessToken) ?_ made
      intro octets equal
      exact bearer_ne_basic accessToken octets (Option.some.inj equal)

theorem TokenExchange.runs_of_prepare {config : ProviderConfig} {code redirectUri : Option Text}
    {body authorization : Text} {request : Http.Request} (client : HttpClient)
    (form : prepare config code redirectUri = .ok (body, authorization))
    (made : Http.prepare "POST" config.tokenEndpoint (formHeaders authorization) body = .ok request)
    (outcome : Http.Answer) :
    ∃ history result, Runs (exchange config client code redirectUri) history result
      ∧ ⟨.send client request, outcome⟩ ∈ history := by
  obtain ⟨history, runs, sent⟩ := leaves_exchange.2 (.inr ⟨body, authorization, _, form,
    NetProgram.leaves_fetch.2 (.inr ⟨request, outcome, made, rfl, rfl⟩), rfl⟩)
  have kept : ⟨.send client request, outcome⟩ ∈ traceOf NetEffect.isAct history := by
    rw [sent]
    exact List.mem_singleton.2 rfl
  exact ⟨history, _, runs, (mem_traceOf.1 kept).1⟩

theorem credentials_on_the_wire_of_sample :
    ∃ before history result, Runs (Resolution.resolve Sample.settings none) before (.ok Sample.resolved)
      ∧ Runs (TokenExchange.exchange Sample.resolved .given (some "abc") (some Sample.config.callbackUrl))
          history result
      ∧ ⟨.send .given Sample.tokenRequest, .raised ⟨.http, []⟩⟩ ∈ history
      ∧ Sample.tokenRequest.authorization
          = some ("Basic " ++ Base64.encode (TokenExchange.applicationOctets Sample.resolved)) := by
  obtain ⟨before, resolving⟩ := Sample.runs_resolve
  obtain ⟨history, result, runs, member⟩ :=
    TokenExchange.runs_of_prepare .given (Sample.prepare_form Sample.resolved rfl rfl)
      Sample.prepare_tokenRequest (.raised ⟨.http, []⟩)
  have settled := ((Resolution.meets_resolve _ _).of_runs resolving).2 _ rfl
  have nobody : ¬ Sample.tokenRequest.NamesUser Sample.resolved.tokenEndpoint :=
    (credentials?_of_prepare settled.token.authorityOf_ne_nil Sample.prepare_tokenRequest).1
      (RequestUrl.credentials?_eq_none.2 (.inl rfl))
  refine ⟨before, history, result, resolving, runs, member, ?_⟩
  have exchanged := ((credentials_on_the_wire resolving).2 _ rfl .given).1 _ _ _ _ runs _ member
  exact exchanged.2 (.inl nobody)

namespace Sample

def namedEndpoint : Text := "https://u:p@idp.example.com/token"

def namedResolved : ProviderConfig := { resolved with tokenEndpoint := namedEndpoint }

def namedRequest : Http.Request where
  method := "POST"
  url := ⟨"https", "u:p", "idp.example.com", none, "/token", none, none⟩
  headers := TokenExchange.formHeaders "Basic dTpw"
  body := tokenRequest.body

theorem accepts_namedEndpoint : Accepts settings.unsafeLocalDev namedEndpoint := by
  decide +kernel

theorem prepare_namedRequest :
    Http.prepare "POST" namedEndpoint (TokenExchange.formHeaders authorization) form = .ok namedRequest := by
  obtain ⟨_, headersChecked, written, _⟩ := Http.prepare_eq_ok.1 prepare_tokenRequest
  refine Http.prepare_eq_ok.2 ⟨?_, headersChecked, written, ?_, ?_, rfl⟩
  · exact except_eq_ok_of_toOption (by decide +kernel)
  · exact except_eq_ok_of_toOption (by decide +kernel)
  · exact except_eq_ok_of_toOption (by decide +kernel)

end Sample

-- An endpoint whose address names a user is told that name and password, and not those of the application.
theorem credentials_replaced_by_address :
    ∃ before history result, Runs (Resolution.resolve
          { Sample.settings with tokenUrl := some Sample.namedEndpoint } none) before (.ok Sample.namedResolved)
      ∧ Runs (TokenExchange.exchange Sample.namedResolved .given (some "abc") (some Sample.config.callbackUrl))
          history result
      ∧ ⟨.send .given Sample.namedRequest, .raised ⟨.http, []⟩⟩ ∈ history
      ∧ Sample.namedRequest.authorization = some "Basic dTpw"
      ∧ Sample.namedRequest.authorization
          ≠ some ("Basic " ++ Base64.encode (TokenExchange.applicationOctets Sample.namedResolved)) := by
  have config := Resolution.explicitConfig_of_tokenUrl Sample.accepts_namedEndpoint Sample.explicitConfig_settings
  obtain ⟨before, resolving, _⟩ := (Resolution.leaves_resolve_of_explicit rfl).2 ⟨rfl, config.symm⟩
  obtain ⟨history, result, runs, member⟩ :=
    TokenExchange.runs_of_prepare .given (Sample.prepare_form Sample.namedResolved rfl rfl)
      Sample.prepare_namedRequest (.raised ⟨.http, []⟩)
  have carries : Sample.namedRequest.authorization = some "Basic dTpw" := TokenExchange.get?_formHeaders _
  refine ⟨before, history, result, resolving, runs, member, carries, ?_⟩
  rw [carries]
  decide +kernel

end OidcLogin
