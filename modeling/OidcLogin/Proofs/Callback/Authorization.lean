import OidcLogin.Proofs.Callback.Reading
import OidcLogin.Proofs.Callback.WithClient
import OidcLogin.Proofs.Identity.Mapping
import OidcLogin.Proofs.Json.Documents

namespace OidcLogin

open Program

namespace CallbackHandler

variable {User : Type} {config : ProviderConfig} {client : HttpClient} {query : Text}
  {request : CallbackRequest} {expected : Option Text}

-- The host application is asked for whoever the claims let in, and for nobody else.
theorem login_is_authorized {history : List (LoginExchange User)} {result : Except Failure Text}
    (runs : Runs (((ofConfig config).handle query request expected).withClient
      (OidcClient.overHttp config client)) history result)
    (asked : ∃ exchange ∈ history, exchange.1.isHost = true) :
    ∃ code token claims identity tokenRequest tokenResponse claimsRequest claimsResponse reply rest,
      traceOf LoginEffect.isAct history
        = ⟨.net (.send client tokenRequest), .response tokenResponse⟩
          :: ⟨.net (.send client claimsRequest), .response claimsResponse⟩
          :: ⟨.login identity.email identity.displayName identity.isAdministrator, reply⟩ :: rest
      ∧ Form.Lacks (Form.decode true query) "error"
      ∧ Callback.parse query expected = .ok code ∧ code ≠ []
      ∧ TokenExchange.Grants config (some code) (some ((ofConfig config).redirectUri request))
          tokenRequest tokenResponse token
      ∧ UserInfo.Gives config token.accessToken claimsRequest claimsResponse claims
      ∧ (ofConfig config).mapper.Admits claims identity := by
  obtain ⟨acts, outcome, course, _, expanded⟩ := leaves_withClient.1 runs.leaves
  have acted : ∃ exchange ∈ traceOf LoginEffect.isAct history, exchange.1.isHost = true := by
    obtain ⟨exchange, member, isHost⟩ := asked
    exact ⟨exchange, mem_traceOf.2 ⟨member, LoginEffect.isAct_of_isHost isHost⟩, isHost⟩
  obtain ⟨code, token, claims, identity, exchanged, fetched, approach⟩ := course.approach expanded acted
  obtain ⟨tokenRequest, tokenResponse, rfl, grants⟩ := TokenExchange.leaves_exchange_ok approach.exchange
  obtain ⟨claimsRequest, claimsResponse, rfl, gives⟩ := UserInfo.leaves_fetch_ok approach.fetch
  obtain ⟨reply, rest, trace⟩ := approach.order
  obtain ⟨noError, found, _⟩ := Callback.parse_eq_ok.1 approach.parsed
  have full : code ≠ [] := (Form.mem_filled.1 (Form.mem_of_last? found)).2
  exact ⟨code, token, claims, identity, tokenRequest, tokenResponse, claimsRequest, claimsResponse, reply,
    rest, trace, noError, approach.parsed, full, grants, gives,
    IdentityMapper.mapClaims_eq_ok.1 approach.mapped⟩

end CallbackHandler

namespace Sample

theorem leaves_exchange :
    Leaves NetEffect.isAct (TokenExchange.exchange config .given (some "abc") (some config.callbackUrl))
      [⟨.send .given tokenRequest, .response tokenResponse⟩] (.ok token) := by
  have absolute : Http.checkAbsolute tokenRequest.url = .ok () := rfl
  let accepts (payload : Members) : Bool :=
    !Members.has payload "error" && (TokenExchange.ofPayload payload).toOption = some token
  obtain ⟨payload, document, accepted⟩ : ∃ payload,
      Json.ofBytes tokenResponse.levels tokenResponse.chunks.flatten = .ok (.object payload) ∧ accepts payload = true :=
    Json.exists_object (by decide +kernel)
  obtain ⟨noError, granted⟩ := Bool.and_eq_true_iff.1 accepted
  have received : Http.receive config.tokenEndpoint tokenRequest (.response tokenResponse)
      = .ok (tokenResponse, .object payload) :=
    Http.receive_eq_ok.2 ⟨rfl, absolute, rfl, rfl, by decide,
      (Http.decodeBody_of_isSuccess rfl).2 document⟩
  refine TokenExchange.leaves_exchange.2 (.inr ⟨form, authorization, _, prepare_form config rfl rfl,
    NetProgram.leaves_fetch.2 (.inr ⟨_, _, prepare_tokenRequest, rfl, received.symm⟩), ?_⟩)
  refine (TokenExchange.ofFetch_eq_ok.2 ⟨_, _, rfl, ?_⟩).symm
  exact TokenExchange.ofResponse_eq_ok.2 ⟨rfl, payload, rfl, by simpa using noError,
    except_eq_ok_of_toOption (of_decide_eq_true granted)⟩

theorem leaves_fetch :
    ∃ claims, ((CallbackHandler.ofConfig config).mapper.mapClaims claims).2 = .ok identity
      ∧ Leaves NetEffect.isAct (UserInfo.fetch config .given token.accessToken)
          [⟨.send .given claimsRequest, .response claimsResponse⟩] (.ok claims) := by
  have made : Http.prepare "GET" config.userinfoEndpoint (UserInfo.headers token.accessToken) []
      = .ok claimsRequest := except_eq_ok_of_toOption (by decide +kernel)
  have absolute : Http.checkAbsolute claimsRequest.url = .ok () := rfl
  let accepts (claims : Members) : Bool :=
    ((CallbackHandler.ofConfig config).mapper.mapClaims claims).2.toOption = some identity
  obtain ⟨claims, document, accepted⟩ : ∃ claims,
      Json.ofBytes claimsResponse.levels claimsResponse.chunks.flatten = .ok (.object claims) ∧ accepts claims = true :=
    Json.exists_object (by decide +kernel)
  have received : Http.receive config.userinfoEndpoint claimsRequest (.response claimsResponse)
      = .ok (claimsResponse, .object claims) :=
    Http.receive_eq_ok.2 ⟨rfl, absolute, rfl, rfl, by decide,
      (Http.decodeBody_of_isSuccess rfl).2 document⟩
  refine ⟨claims, except_eq_ok_of_toOption (of_decide_eq_true accepted), ?_⟩
  refine UserInfo.leaves_fetch.2 ⟨_, NetProgram.leaves_fetch.2 (.inr ⟨_, _, made, rfl, received.symm⟩), ?_⟩
  exact (UserInfo.ofFetch_eq_ok.2 ⟨_, _, rfl, UserInfo.ofResponse_eq_ok.2 ⟨rfl, rfl⟩⟩).symm

end Sample

namespace CallbackHandler

theorem login_is_authorized_of_staff :
    ∃ (history : List (LoginExchange Text)) (result : Except Failure Text),
      Runs (((ofConfig Sample.config).handle "code=abc" Sample.request none).withClient
          (OidcClient.overHttp Sample.config .given)) history result
        ∧ (∃ exchange ∈ history, exchange.1.isHost = true)
        ∧ ∃ claims identity, (ofConfig Sample.config).mapper.Admits claims identity := by
  obtain ⟨claims, mapped, fetched⟩ := Sample.leaves_fetch
  let looked : CallbackExchange Text :=
    ⟨.login Sample.identity.email Sample.identity.displayName Sample.identity.isAdministrator,
      .error .groupsDenied⟩
  have course : Course (ofConfig Sample.config) "code=abc" Sample.request none _ _ :=
    .admitted Sample.parse_code Sample.token mapped (.unknown .groupsDenied : TakesOver _ _ [looked] _)
  have expanded : Expands LoginEffect.isAct (OidcClient.overHttp Sample.config .given).answer
      [⟨.exchangeCode "abc" ((ofConfig Sample.config).redirectUri Sample.request), .ok Sample.token⟩,
       ⟨.fetchUserInfo Sample.token.accessToken, .ok claims⟩, looked] _ :=
    (expands_lifted rfl).2 ⟨_, _, rfl, Sample.leaves_exchange,
      (expands_lifted rfl).2 ⟨_, _, rfl, fetched, expands_login.2 ⟨_, rfl, .nil⟩⟩⟩
  obtain ⟨history, runs, trace⟩ := leaves_withClient.2 ⟨_, _, course, rfl, expanded⟩
  have member : (⟨.login Sample.identity.email Sample.identity.displayName
      Sample.identity.isAdministrator, .error .groupsDenied⟩ : LoginExchange Text)
        ∈ traceOf LoginEffect.isAct history := by
    rw [trace]
    exact .tail _ (.tail _ (.head _))
  have asked : ∃ exchange ∈ history, exchange.1.isHost = true := ⟨_, (mem_traceOf.1 member).1, rfl⟩
  obtain ⟨_, _, admitted, identity, _, _, _, _, _, _, _, _, _, _, _, _, admits⟩ :=
    login_is_authorized runs asked
  exact ⟨history, _, runs, asked, admitted, identity, admits⟩

end CallbackHandler

end OidcLogin
