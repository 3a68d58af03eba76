import OidcLogin.Proofs.Callback.EffectOrder
import OidcLogin.Proofs.Callback.Session
import OidcLogin.Proofs.Callback.StateCheck
import OidcLogin.Proofs.Client.Credentials
import OidcLogin.Proofs.Client.Failures
import OidcLogin.Proofs.Identity.Mapping

namespace OidcLogin

open Program

variable {User : Type}

-- The network answers or raises a failure of its own, the login service fails as one at most, and the other
-- two parties do not fail.
def Usual : LoginExchange User → Prop
  | ⟨.net (.send ..), .raised r⟩ => r.kind.isA .http = true
  | ⟨.login .., .error failure⟩ => failure.kind.isA .storage = true
  | ⟨.establish .., .error _⟩ | ⟨.audit .., .error _⟩ => False
  | _ => True

theorem usual_of_trace {history : List (LoginExchange User)}
    (usual : ∀ exchange ∈ traceOf LoginEffect.isAct history, Usual exchange) :
    ∀ exchange ∈ history, Usual exchange := by
  intro exchange member
  cases act : exchange.1.isAct with
  | true => exact usual exchange (mem_traceOf.2 ⟨member, act⟩)
  | false =>
    obtain ⟨effect, reply⟩ := exchange
    cases effect with
    | net effect =>
      cases effect with
      | note n => trivial
      | send _ _ | openClient _ | closeClient _ => cases act
    | draw _ | login _ _ _ | establish _ _ | audit _ _ => cases act

theorem netUsual_of_usual {sent : List NetExchange} {trace : List (LoginExchange User)}
    (usual : ∀ exchange ∈ trace, Usual exchange)
    (inside : ∀ exchange ∈ sent.map NetProgram.lifted, exchange ∈ trace) : NetUsual sent := by
  intro client request r member
  exact usual _ (inside _ (List.mem_map_of_mem member))

theorem Callback.code_isScalar {query code : Text} {expected : Option Text} (scalar : query.IsScalar)
    (read : parse query expected = .ok code) : code.IsScalar := by
  obtain ⟨_, found, _⟩ := parse_eq_ok.1 read
  have visibleScalar : (visible query).IsScalar := by
    refine scalar.of_subset fun c member => ?_
    exact (List.mem_filter.1 ((List.takeWhile_prefix _).subset member)).1
  exact (Form.isScalar_of_mem_decode visibleScalar (Form.mem_filled.1 (Form.mem_of_last? found)).1).2

def hosted : CallbackExchange User → Option (LoginExchange User)
  | ⟨.login email name administrator, reply⟩ => some ⟨.login email name administrator, reply⟩
  | ⟨.establish request user, reply⟩ => some ⟨.establish request user, reply⟩
  | ⟨.audit request user, reply⟩ => some ⟨.audit request user, reply⟩
  | _ => none

theorem mem_of_hosted {client : OidcClient} {acts : List (CallbackExchange User)}
    {trace : List (LoginExchange User)} (expanded : Expands LoginEffect.isAct client.answer acts trace)
    {act : CallbackExchange User} {exchange : LoginExchange User} (member : act ∈ acts)
    (same : hosted act = some exchange) : exchange ∈ trace := by
  induction expanded with
  | nil => cases member
  | @cons effect reply outer first second one rest ih =>
    rcases List.mem_cons.1 member with rfl | later
    · refine List.mem_append_left _ ?_
      cases effect with
      | login email name administrator =>
        obtain rfl := (leaves_asked rfl).1 one
        cases same
        exact List.mem_cons_self
      | establish request user =>
        obtain rfl := (leaves_asked rfl).1 one
        cases same
        exact List.mem_cons_self
      | audit request user =>
        obtain rfl := (leaves_asked rfl).1 one
        cases same
        exact List.mem_cons_self
      | note _ | exchangeCode _ _ | fetchUserInfo _ => cases same
    · exact List.mem_append_right _ (ih later)

namespace CallbackHandler

-- The callback succeeded, or its failure has the class of the step that failed.
inductive Classified (h : CallbackHandler) (query : Text) (expected : Option Text) :
    List (CallbackExchange User) → Except Failure Text → Prop
  | done {acts : List (CallbackExchange User)} (all : acts.length = 5)
      (well : ∀ act ∈ acts, failureOf act = none) (url : Text) : Classified h query expected acts (.ok url)
  | query {failure : Failure} (read : Callback.parse query expected = .error failure)
      (kind : failure.isOfCallback) : Classified h query expected [] (.error failure)
  | exchange (code redirectUri : Text) {failure : Failure} (kind : failure.kind = .tokenExchange) :
      Classified h query expected [⟨.exchangeCode code redirectUri, .error failure⟩] (.error failure)
  | fetch (exchanged : CallbackExchange User) (accessToken : Text) {failure : Failure}
      (kind : failure.kind = .userInfo) :
      Classified h query expected [exchanged, ⟨.fetchUserInfo accessToken, .error failure⟩] (.error failure)
  | claims (exchanged : CallbackExchange User) (accessToken : Text) {claims : Members} {failure : Failure}
      (unread : ∃ violations, UserClaims.read (h.mapper.relevant claims) = .refused violations)
      (kind : failure.kind = .userInfo) :
      Classified h query expected [exchanged, ⟨.fetchUserInfo accessToken, .ok claims⟩] (.error failure)
  | groups (exchanged : CallbackExchange User) (accessToken : Text) {claims : Members} {failure : Failure}
      (outside : ∃ read, UserClaims.read (h.mapper.relevant claims) = .ok read
        ∧ h.mapper.isAdministrator read.groups = false ∧ h.mapper.isAllowed read.groups = false)
      (kind : failure.kind = .groupDenied) :
      Classified h query expected [exchanged, ⟨.fetchUserInfo accessToken, .ok claims⟩] (.error failure)
  | login (exchanged fetched : CallbackExchange User) (email name : Text) (administrator : Bool)
      {failure : Failure} (kind : failure.kind.isA .storage = true) :
      Classified h query expected [exchanged, fetched, ⟨.login email name administrator, .error failure⟩]
        (.error failure)

variable {config : ProviderConfig} {client : HttpClient} {query : Text} {request : CallbackRequest}
  {expected : Option Text} {trace : List (LoginExchange User)}

theorem isLogin_of_isOfCallback {failure : Failure} (kind : failure.isOfCallback) : failure.isLogin = true := by
  unfold Failure.isOfCallback at kind
  unfold Failure.isLogin
  generalize failure.kind = k at kind ⊢
  revert kind
  cases k with
  | network name => simp [Kind.isA, Kind.above, Kind.parent?]
  | _ => decide

theorem isLogin_of_isA_storage {failure : Failure} (kind : failure.kind.isA .storage = true) :
    failure.isLogin = true := by
  unfold Failure.isLogin
  generalize failure.kind = k at kind ⊢
  revert kind
  cases k with
  | network name => simp [Kind.isA, Kind.above, Kind.parent?]
  | _ => decide

theorem Classified.isLogin {h : CallbackHandler} {acts : List (CallbackExchange User)} {failure : Failure}
    (classified : Classified h query expected acts (.error failure)) : failure.isLogin = true := by
  have own {kind : Kind} (same : failure.kind = kind) (login : kind.isA .login = true) :
      failure.isLogin = true := by
    unfold Failure.isLogin
    rw [same, login]
  cases classified with
  | query read kind => exact isLogin_of_isOfCallback kind
  | exchange code redirectUri kind => exact own kind rfl
  | fetch exchanged accessToken kind => exact own kind rfl
  | claims exchanged accessToken unread kind => exact own kind rfl
  | groups exchanged accessToken outside kind => exact own kind rfl
  | login exchanged fetched email name administrator kind => exact isLogin_of_isA_storage kind

-- A failure escapes from the exchange of the code, or from the fetch of the claims after it.
inductive Escapes (config : ProviderConfig) (client : HttpClient) (query : Text) (request : CallbackRequest)
    (expected : Option Text) : List (LoginExchange User) → Kind → Prop
  | exchange {code : Text} {sent : List NetExchange} {kind : Kind}
      (read : Callback.parse query expected = .ok code)
      (escapes : TokenExchange.Escapes config client code ((ofConfig config).redirectUri request) sent kind) :
      Escapes config client query request expected (sent.map NetProgram.lifted) kind
  | fetch {code : Text} {token : TokenResponse} {exchanged fetched : List NetExchange} {fault : Http.FetchFault}
      (read : Callback.parse query expected = .ok code)
      (granted : Leaves NetEffect.isAct
        (TokenExchange.exchange config client (some code) (some ((ofConfig config).redirectUri request)))
        exchanged (.ok token))
      (escapes : FetchEscapes client "GET" config.userinfoEndpoint (UserInfo.headers token.accessToken) []
        fetched fault) :
      Escapes config client query request expected
        (exchanged.map NetProgram.lifted ++ fetched.map NetProgram.lifted) fault.kind

theorem Escapes.isA_login {kind : Kind} (escapes : Escapes config client query request expected trace kind) :
    kind.isA .login = false := by
  cases escapes with
  | exchange read escapes => exact escapes.isA_login
  | fetch read granted escapes => exact escapes.isA_login

theorem Escapes.fails (usual : ∀ exchange ∈ trace, Usual exchange) {kind : Kind}
    (escapes : Escapes config client query request expected trace kind) :
    ∃ failure, Leaves LoginEffect.isAct (((ofConfig config).handle query request expected).withClient
        (OidcClient.overHttp config client)) trace (.error failure)
      ∧ failure.kind = kind := by
  cases escapes with
  | @exchange code sent kind read escapes =>
    obtain ⟨failure, left, same⟩ := escapes.fails (netUsual_of_usual usual fun _ member => member)
    refine ⟨failure, leaves_withClient.2 ⟨_, _, .unexchanged read failure, rfl, ?_⟩, same⟩
    exact (expands_lifted rfl).2 ⟨sent, [], (List.append_nil _).symm, left, .nil⟩
  | @fetch code token exchanged fetched fault read granted escapes =>
    have left := UserInfo.fails_of_escapes
      (netUsual_of_usual usual fun _ member => List.mem_append_right _ member) escapes
    refine ⟨.fetch fault, leaves_withClient.2 ⟨_, _, .unfetched read token (.fetch fault), rfl, ?_⟩, rfl⟩
    exact (expands_lifted rfl).2 ⟨exchanged, _, rfl, granted,
      (expands_lifted rfl).2 ⟨fetched, [], (List.append_nil _).symm, left, .nil⟩⟩

-- Where nothing escapes, every course ends well or with a failure of the class of its last step.
theorem Course.classified {acts : List (CallbackExchange User)} {outcome : Except Failure Unit} {url : Text}
    (course : Course (ofConfig config) query request expected acts outcome)
    (expanded : Expands LoginEffect.isAct (OidcClient.overHttp config client).answer acts trace)
    (scalar : query.IsScalar) (usual : ∀ exchange ∈ trace, Usual exchange)
    (nothing : ∀ kind, ¬ Escapes config client query request expected trace kind) :
    Classified (ofConfig config) query expected acts (outcome.bind fun () => .ok url) := by
  cases course with
  | unread read =>
    obtain ⟨fault, rfl⟩ := Callback.parse_eq_error read
    exact .query read fault.isOfCallback
  | unexchanged read failure =>
    obtain ⟨sent, _, rfl, left, none⟩ := (expands_lifted rfl).1 expanded
    obtain rfl := expands_nil.1 none
    rw [List.append_nil] at usual nothing
    rcases TokenExchange.kind_of_failed (Callback.code_isScalar scalar read)
        (netUsual_of_usual usual fun _ member => member) left with own | escapes
    · exact .exchange _ _ own
    · exact absurd (.exchange read escapes) (nothing _)
  | unfetched read token failure =>
    obtain ⟨exchanged, _, rfl, granted, claimed⟩ := (expands_lifted rfl).1 expanded
    obtain ⟨fetched, _, rfl, left, none⟩ := (expands_lifted rfl).1 claimed
    obtain rfl := expands_nil.1 none
    rw [List.append_nil] at usual nothing
    rcases UserInfo.kind_of_failed
        (netUsual_of_usual usual fun _ member => List.mem_append_right _ member) left with own | ⟨_, escapes, _⟩
    · exact .fetch _ _ own
    · exact absurd (.fetch read granted escapes) (nothing _)
  | refused read token mapped =>
    rcases IdentityMapper.mapClaims_eq_error mapped with ⟨unread, kind⟩ | ⟨outside, kind⟩
    · exact .claims _ _ unread kind
    · exact .groups _ _ outside kind
  | admitted read token mapped after =>
    have host {act : CallbackExchange User} {exchange : LoginExchange User} (member : act ∈ _)
        (same : hosted act = some exchange) : Usual exchange :=
      usual exchange (mem_of_hosted expanded member same)
    cases after with
    | unknown failure => exact .login _ _ _ _ _ (host (.tail _ (.tail _ (.head _))) rfl)
    | unbound user failure => exact (host (.tail _ (.tail _ (.tail _ (.head _)))) rfl).elim
    | unrecorded user failure => exact (host (.tail _ (.tail _ (.tail _ (.tail _ (.head _))))) rfl).elim
    | taken user => exact .done rfl (by simp [failureOf]) url

theorem unique_trace {program : LoginProgram User (Except Failure Text)} {result other : Except Failure Text}
    (left : Leaves LoginEffect.isAct program trace result) (again : Leaves LoginEffect.isAct program trace other) :
    result = other := by
  refine left.unique (fun effect dropped => ?_) again
  cases effect with
  | net effect =>
    cases effect with
    | note n => exact inferInstanceAs (Subsingleton Unit)
    | send _ _ | openClient _ | closeClient _ => cases dropped
  | draw _ | login _ _ _ | establish _ _ | audit _ _ => cases dropped

-- A callback succeeds or fails as a login of the class of its step, exactly if nothing escapes; and what
-- escapes is no failure of the login.
theorem callback_classified_iff {s : Settings} {given : Option HttpClient} {before : List NetExchange}
    (resolving : Runs (Resolution.resolve s given) before (.ok config)) (scalar : query.IsScalar)
    {history : List (LoginExchange User)} {result : Except Failure Text}
    (runs : Runs (((ofConfig config).handle query request expected).withClient
      (OidcClient.overHttp config client)) history result)
    (usual : ∀ exchange ∈ history, Usual exchange) :
    ((∃ acts outcome, Course (ofConfig config) query request expected acts outcome
        ∧ Expands LoginEffect.isAct (OidcClient.overHttp config client).answer acts
            (traceOf LoginEffect.isAct history)
        ∧ result = outcome.bind (fun () => (ofConfig config).successUrl)
        ∧ Classified (ofConfig config) query expected acts result)
      ↔ ∀ kind, ¬ Escapes config client query request expected (traceOf LoginEffect.isAct history) kind)
    ∧ ∀ kind, Escapes config client query request expected (traceOf LoginEffect.isAct history) kind →
        ∃ failure, result = .error failure ∧ failure.kind = kind ∧ failure.isLogin = false := by
  have settled := ((Resolution.meets_resolve s given).of_runs resolving).2 config rfl
  obtain ⟨parts, _, leads⟩ := settled.baseUrl.successUrl (h := ofConfig config)
  have usualTrace : ∀ exchange ∈ traceOf LoginEffect.isAct history, Usual exchange :=
    fun exchange member => usual exchange (mem_traceOf.1 member).1
  have escaped : ∀ kind, Escapes config client query request expected (traceOf LoginEffect.isAct history) kind →
      ∃ failure, result = .error failure ∧ failure.kind = kind ∧ failure.isLogin = false := by
    intro kind escapes
    obtain ⟨failure, left, same⟩ := escapes.fails usualTrace
    refine ⟨failure, unique_trace runs.leaves left, same, ?_⟩
    unfold Failure.isLogin
    rw [same, escapes.isA_login]
  refine ⟨⟨?_, ?_⟩, escaped⟩
  · intro told kind escapes
    obtain ⟨acts, outcome, _, _, _, classified⟩ := told
    obtain ⟨failure, rfl, _, notLogin⟩ := escaped kind escapes
    rw [classified.isLogin] at notLogin
    cases notLogin
  · intro nothing
    obtain ⟨acts, outcome, course, same, expanded⟩ := leaves_withClient.1 runs.leaves
    refine ⟨acts, outcome, course, expanded, same, ?_⟩
    rw [same, leads]
    exact course.classified expanded scalar usualTrace nothing

theorem callback_classified_iff_of_unreachable :
    ∃ (before : List NetExchange) (request : CallbackRequest) (history : List (LoginExchange Text))
        (failure : Failure),
      Runs (Resolution.resolve Sample.settings none) before (.ok Sample.resolved)
        ∧ Runs (((ofConfig Sample.resolved).handle "code=abc" request none).withClient
            (OidcClient.overHttp Sample.resolved .given)) history (.error failure)
        ∧ failure.kind = .tokenExchange
        ∧ ∀ kind, ¬ Escapes Sample.resolved .given "code=abc" request none
            (traceOf LoginEffect.isAct history) kind := by
  obtain ⟨before, resolving⟩ := Sample.runs_resolve
  let request : CallbackRequest := ⟨[(redirectParameter, some Sample.config.callbackUrl)]⟩
  have redirect : (ofConfig Sample.resolved).redirectUri request = Sample.config.callbackUrl := by
    simp [redirectUri, request]
    rfl
  let down : Raised := ⟨.http, "down"⟩
  let failure : Failure := .token (.unreachable (.raised down))
  have left : Leaves NetEffect.isAct
      (TokenExchange.exchange Sample.resolved .given (some "abc") (some Sample.config.callbackUrl))
      [⟨.send .given Sample.tokenRequest, .raised down⟩] (.error failure) :=
    TokenExchange.leaves_exchange.2 (.inr ⟨_, _, _, Sample.prepare_form Sample.resolved rfl rfl,
      NetProgram.leaves_fetch.2 (.inr ⟨_, _, Sample.prepare_tokenRequest, rfl, rfl⟩), rfl⟩)
  have course : @Course Text (ofConfig Sample.resolved) "code=abc" request none _ (.error failure) :=
    .unexchanged Sample.parse_code failure
  rw [← redirect] at left
  have expanded : Expands LoginEffect.isAct (OidcClient.overHttp Sample.resolved .given).answer
      [(⟨.exchangeCode "abc" ((ofConfig Sample.resolved).redirectUri request), .error failure⟩
        : CallbackExchange Text)] _ :=
    (expands_lifted rfl).2 ⟨_, [], rfl, left, .nil⟩
  obtain ⟨history, runs, trace⟩ := leaves_withClient.2 ⟨_, _, course, rfl, expanded⟩
  have usual : ∀ exchange ∈ history, Usual exchange := by
    refine usual_of_trace fun exchange member => ?_
    rw [trace] at member
    obtain rfl := List.mem_singleton.1 member
    rfl
  refine ⟨before, request, history, failure, resolving, runs, rfl, ?_⟩
  refine (callback_classified_iff resolving (by decide) runs usual).1.1 ⟨_, _, course, ?_, rfl, ?_⟩
  · rw [trace]
    exact expanded
  · exact .exchange _ _ rfl

end CallbackHandler

namespace Sample

def beyondSettings : Settings := { settings with clientId := some "€" }

def beyondResolved : ProviderConfig := { resolved with clientId := "€" }

end Sample

namespace CallbackHandler

-- A callback under such a name is no failed login, though nobody outside does anything unusual.
theorem failure_escapes_of_beyond_latin :
    ∃ (before : List NetExchange) (history : List (LoginExchange Text)) (failure : Failure),
      Runs (Resolution.resolve Sample.beyondSettings none) before (.ok Sample.beyondResolved)
        ∧ Runs (((ofConfig Sample.beyondResolved).handle "code=abc" Sample.request none).withClient
            (OidcClient.overHttp Sample.beyondResolved .given)) history (.error failure)
        ∧ (∀ exchange ∈ history, Usual exchange)
        ∧ failure.kind = .unicodeEncode ∧ failure.isLogin = false := by
  have config : Resolution.explicitConfig Sample.beyondSettings = .ok Sample.beyondResolved :=
    Resolution.explicitConfig_of_clientId (Text.isScalar_ofString "€") (by decide) Sample.explicitConfig_settings
  obtain ⟨before, resolving, _⟩ := (Resolution.leaves_resolve_of_explicit rfl).2 ⟨rfl, config.symm⟩
  have scalar : Text.IsScalar ((ofConfig Sample.beyondResolved).redirectUri Sample.request) :=
    Text.isScalar_ofString _
  have beyond : TokenExchange.BeyondLatin Sample.beyondResolved :=
    ⟨CodePoint.ofChar '€', by decide, by decide⟩
  have escapes : @Escapes Text Sample.beyondResolved .given "code=abc" Sample.request none []
      .unicodeEncode :=
    .exchange Sample.parse_code (.application scalar beyond)
  obtain ⟨failure, ⟨history, runs, trace⟩, kind⟩ :=
    escapes.fails fun _ impossible => absurd impossible List.not_mem_nil
  refine ⟨before, history, failure, resolving, runs, usual_of_trace ?_, kind, ?_⟩
  · rw [trace]
    exact fun _ impossible => absurd impossible List.not_mem_nil
  · unfold Failure.isLogin
    rw [kind]
    rfl

end CallbackHandler

end OidcLogin
