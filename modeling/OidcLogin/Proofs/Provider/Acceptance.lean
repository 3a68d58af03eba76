import OidcLogin.Proofs.Client.Notes
import OidcLogin.Proofs.Provider.Failures

namespace OidcLogin

open Program

-- The members of a document that make metadata, whatever members it has besides.
structure ProviderMetadata.IsIn (m : ProviderMetadata) (members : Members) : Prop where
  issuer : members.get? "issuer" = some (.text m.issuer) ∧ m.issuer.IsScalar ∧ m.issuer ≠ []
  authorization : members.get? "authorization_endpoint" = some (.text m.authorizationEndpoint)
    ∧ m.authorizationEndpoint.IsScalar ∧ m.authorizationEndpoint ≠ []
  token : members.get? "token_endpoint" = some (.text m.tokenEndpoint) ∧ m.tokenEndpoint.IsScalar ∧ m.tokenEndpoint ≠ []
  userinfo : members.get? "userinfo_endpoint" = some (.text m.userinfoEndpoint) ∧ m.userinfoEndpoint.IsScalar
    ∧ m.userinfoEndpoint ≠ []

theorem Members.requiredText_eq_ok {members : Members} {name t : Text} :
    members.required name Reader.nonEmptyText = .ok t ↔ members.get? name = some (.text t) ∧ t.IsScalar ∧ t ≠ [] := by
  rw [required_eq_ok]
  constructor
  · rintro ⟨_, given, read⟩
    obtain ⟨rfl, scalar, full⟩ := Reader.nonEmptyText_eq_ok.1 read
    exact ⟨given, scalar, full⟩
  · rintro ⟨given, scalar, full⟩
    exact ⟨_, given, Reader.nonEmptyText_eq_ok.2 ⟨rfl, scalar, full⟩⟩

theorem ProviderMetadata.read_eq_ok {m : ProviderMetadata} {members : Members} :
    read members = .ok m ↔ m.IsIn members := by
  unfold read
  constructor
  · intro made
    obtain ⟨_, userinfo, throughToken, fourth, rfl⟩ := Checked.seq_eq_ok.1 made
    obtain ⟨_, token, throughAuthorization, third, rfl⟩ := Checked.seq_eq_ok.1 throughToken
    obtain ⟨_, authorization, first, second, rfl⟩ := Checked.seq_eq_ok.1 throughAuthorization
    obtain ⟨issuer, named, rfl⟩ := Checked.map_eq_ok.1 first
    exact ⟨Members.requiredText_eq_ok.1 named, Members.requiredText_eq_ok.1 second,
      Members.requiredText_eq_ok.1 third, Members.requiredText_eq_ok.1 fourth⟩
  · obtain ⟨issuer, authorization, token, userinfo⟩ := m
    rintro ⟨named, second, third, fourth⟩
    refine Checked.seq_eq_ok.2 ⟨_, _, ?_, Members.requiredText_eq_ok.2 fourth, rfl⟩
    refine Checked.seq_eq_ok.2 ⟨_, _, ?_, Members.requiredText_eq_ok.2 third, rfl⟩
    refine Checked.seq_eq_ok.2 ⟨_, _, ?_, Members.requiredText_eq_ok.2 second, rfl⟩
    exact Checked.map_eq_ok.2 ⟨_, Members.requiredText_eq_ok.2 named, rfl⟩

def Http.Answer.IsUsual (outcome : Http.Answer) : Prop :=
  ∀ r, outcome = .raised r → Http.FetchFault.isNetwork (.raised r) = true

namespace Discovery

variable {issuer : Text} {client : HttpClient} {request : Http.Request} {outcome : Http.Answer}
  {history : List NetExchange} {result : Except Failure ProviderMetadata} {failure : Failure}

def opening (issuer : Text) : List Note :=
  [.span (.start spanName), .span (.attribute "openid.discovery_url" (.text (url issuer)))]

def closing (issuer : Text) : Except Failure ProviderMetadata → List Note
  | .error failure => (failureEvents failure ++ Span.leave failure.kind).map .span
  | .ok _ => [.info ("Resolved OIDC endpoints for issuer " ++ issuer), .span .finish]

def settle (issuer : Text) (fetched : Except Http.FetchFault (Http.Response × Json)) :
    List Note × Except Failure ProviderMetadata :=
  (closing issuer (ofFetch issuer fetched), ofFetch issuer fetched)

theorem discover_eq (issuer : Text) (client : HttpClient) :
    discover issuer client
      = NetProgram.noteAll (opening issuer) >>= fun _ =>
          NetProgram.fetch client "GET" (url issuer) [("Accept", "application/json")] [] >>= fun fetched =>
            NetProgram.noteAll (settle issuer fetched).1 >>= fun _ => pure (settle issuer fetched).2 := by
  refine congrArg (NetProgram.noteAll (opening issuer) >>= ·) (funext fun _ => ?_)
  refine congrArg (_ >>= ·) (funext fun fetched => ?_)
  unfold settle
  cases ofFetch issuer fetched with
  | error failure => rfl
  | ok m => rfl

theorem runs_discover :
    Runs (discover issuer client) history result
      ↔ ∃ sent fetched,
          Runs (NetProgram.fetch client "GET" (url issuer) [("Accept", "application/json")] []) sent fetched
          ∧ history = noting (opening issuer) ++ (sent ++ noting (closing issuer result))
          ∧ result = ofFetch issuer fetched := by
  rw [discover_eq, NetProgram.runs_noteAll_bind]
  constructor
  · rintro ⟨rest, rfl, runs⟩
    obtain ⟨sent, fetched, fetches, rfl, rfl⟩ := NetProgram.runs_settled.1 runs
    exact ⟨sent, fetched, fetches, rfl, rfl⟩
  · rintro ⟨sent, fetched, fetches, rfl, rfl⟩
    exact ⟨_, rfl, NetProgram.runs_settled.2 ⟨sent, fetched, fetches, rfl, rfl⟩⟩

-- An answer that is accepted from an issuer, and the metadata in it.
structure Presents (issuer : Text) (request : Http.Request) (response : Http.Response) (m : ProviderMetadata) :
    Prop where
  success : 200 ≤ response.status ∧ response.status ≤ 299
  document : ∃ members, Http.receive (url issuer) request (.response response) = .ok (response, .object members)
    ∧ m.IsIn members
  issuer : withoutSlashes m.issuer = withoutSlashes issuer

-- An answer that fails a discovery with a fault that is passed on.
def Leaky (issuer : Text) (request : Http.Request) (outcome : Http.Answer) : Prop :=
  ∃ fault, Http.receive (url issuer) request outcome = .error fault ∧ fault.Leaks

theorem accepted_iff {m : ProviderMetadata} :
    ofFetch issuer (Http.receive (url issuer) request outcome) = .ok m
      ↔ ∃ response, outcome = .response response ∧ Presents issuer request response m := by
  rw [ofFetch_eq_ok]
  constructor
  · rintro ⟨response, document, received, accepted, declared⟩
    obtain ⟨rfl, _⟩ := Http.receive_eq_ok.1 received
    obtain ⟨success, members, rfl, read⟩ := ofResponse_eq_ok.1 accepted
    exact ⟨response, rfl, Http.isSuccess_iff.1 success, ⟨members, received, ProviderMetadata.read_eq_ok.1 read⟩,
      declared⟩
  · rintro ⟨response, rfl, success, ⟨members, received, inside⟩, declared⟩
    refine ⟨response, .object members, received, ?_, declared⟩
    exact ofResponse_eq_ok.2 ⟨Http.isSuccess_iff.2 success, members, rfl, ProviderMetadata.read_eq_ok.2 inside⟩

theorem kind_of_failed (made : Http.prepare "GET" (url issuer) [("Accept", "application/json")] [] = .ok request)
    (usual : outcome.IsUsual) (failed : ofFetch issuer (Http.receive (url issuer) request outcome) = .error failure) :
    failure.kind = .discovery ↔ ¬ Leaky issuer request outcome := by
  constructor
  · rintro own ⟨fault, received, leaks⟩
    obtain ⟨notNetwork, notValue⟩ := leaks.passes
    rw [received] at failed
    cases ((settles issuer).passes fault notNetwork notValue).symm.trans failed
    rcases leaks.kind with other | other
    · cases other.symm.trans own
    · cases other.symm.trans own
  · intro tight
    -- whoever sends the request
    have left : Leaves NetEffect.isAct (NetProgram.fetch .given "GET" (url issuer) _ _)
        [⟨.send .given request, outcome⟩] _ := NetProgram.leaves_fetch.2 (.inr ⟨request, outcome, made, rfl, rfl⟩)
    have answers : NetAnswers [⟨.send .given request, outcome⟩] := by
      intro client sent r member
      cases List.mem_singleton.1 member
      exact usual r rfl
    rcases (settles issuer).kind_of_failed answers left failed with own | ⟨fault, escapes, rfl⟩
    · exact own
    · cases escapes with
      | answer _ received leaks => exact absurd ⟨fault, received, leaks⟩ tight

-- The one span of a discovery: a failure is the last thing in it, and metadata leaves it as it was opened.
structure Spanned (issuer : Text) (history : List NetExchange) (result : Except Failure ProviderMetadata)
    (span : Span) : Prop where
  only : spansOf (notesOf history) = [span]
  name : span.name = spanName
  attributes : span.attributes = [(("openid.discovery_url" : Text), Span.Attribute.text (url issuer))]
  failed : ∀ failure, result = .error failure → span.status = .error ∧ span.failures.getLast? = some failure.kind
  accepted : ∀ m, result = .ok m → span.status = .unset ∧ span.failures = []

theorem spansOf_failed (issuer : Text) (failure : Failure) :
    ∃ before, spansOf (opening issuer ++ closing issuer (.error failure))
      = [⟨spanName, .error, [("openid.discovery_url", .text (url issuer))], before ++ [failure.kind]⟩] := by
  cases failure with
  | discovery fault =>
    cases fault with
    | unreachable _ fault => exact ⟨[fault.kind], rfl⟩
    | _ => exact ⟨[], rfl⟩
  | _ => exact ⟨[], rfl⟩

theorem spansOf_accepted (issuer : Text) (m : ProviderMetadata) :
    spansOf (opening issuer ++ closing issuer (.ok m))
      = [⟨spanName, .unset, [("openid.discovery_url", .text (url issuer))], []⟩] := rfl

theorem exists_spanned {sent : List NetExchange} (silent : notesOf sent = []) (issuer : Text)
    (result : Except Failure ProviderMetadata) :
    ∃ span, Spanned issuer (noting (opening issuer) ++ (sent ++ noting (closing issuer result))) result span := by
  have notes : notesOf (noting (opening issuer) ++ (sent ++ noting (closing issuer result)))
      = opening issuer ++ closing issuer result := by
    rw [notesOf_append, notesOf_append, notesOf_noting, notesOf_noting, silent, List.nil_append]
  cases result with
  | error failure =>
    obtain ⟨before, spans⟩ := spansOf_failed issuer failure
    refine ⟨_, notes ▸ spans, rfl, rfl, ?_, nofun⟩
    rintro _ ⟨⟩
    exact ⟨rfl, List.getLast?_concat⟩
  | ok m => exact ⟨_, notes ▸ spansOf_accepted issuer m, rfl, rfl, nofun, fun _ _ => ⟨rfl, rfl⟩⟩

-- What comes of the one request of a discovery.
structure Decides (issuer : Text) (client : HttpClient) (request : Http.Request) (outcome : Http.Answer)
    (history : List NetExchange) (result : Except Failure ProviderMetadata) : Prop where
  once : traceOf NetEffect.isAct history = [⟨.send client request, outcome⟩]
  accepted : ∀ m, result = .ok m ↔ ∃ response, outcome = .response response ∧ Presents issuer request response m
  failed : outcome.IsUsual → ∀ failure, result = .error failure →
    (failure.kind = .discovery ↔ ¬ Leaky issuer request outcome)
  spanned : ∃ span, Spanned issuer history result span

structure Requests (issuer : Text) (target : RequestUrl) (request : Http.Request) : Prop where
  made : Http.prepare "GET" (url issuer) [("Accept", "application/json")] [] = .ok request
  method : request.method = "GET"
  target : request.url = target
  body : request.body = []

-- No request can be made for the address, though it is one.
structure Unsendable (issuer : Text) (client : HttpClient) (fault : Http.FetchFault) : Prop where
  refused : Http.prepare "GET" (url issuer) [("Accept", "application/json")] [] = .error fault
  isValue : fault.isValue = true
  fails : ∀ history result, Runs (discover issuer client) history result →
    traceOf NetEffect.isAct history = [] ∧ (∃ failure, result = .error failure ∧ failure.kind = .discovery)
      ∧ ∃ span, Spanned issuer history result span

theorem traceOf_discover (issuer : Text) (sent : List NetExchange) (result : Except Failure ProviderMetadata) :
    traceOf NetEffect.isAct (noting (opening issuer) ++ (sent ++ noting (closing issuer result)))
      = traceOf NetEffect.isAct sent := by
  rw [traceOf_append, traceOf_append, traceOf_noting, traceOf_noting, List.nil_append, List.append_nil]

theorem runs_discover_of_made
    (made : Http.prepare "GET" (url issuer) [("Accept", "application/json")] [] = .ok request) :
    Runs (discover issuer client) history result
      ↔ ∃ outcome, result = ofFetch issuer (Http.receive (url issuer) request outcome)
          ∧ history = noting (opening issuer)
            ++ ([⟨.send client request, outcome⟩] ++ noting (closing issuer result)) := by
  rw [runs_discover]
  constructor
  · rintro ⟨sent, fetched, fetches, rfl, rfl⟩
    rcases NetProgram.runs_fetch.1 fetches with ⟨_, refused, _⟩ | ⟨_, outcome, again, rfl, rfl⟩
    · cases made.symm.trans refused
    · cases made.symm.trans again
      exact ⟨outcome, rfl, rfl⟩
  · rintro ⟨outcome, rfl, rfl⟩
    exact ⟨_, _, NetProgram.runs_fetch.2 (.inr ⟨request, outcome, made, rfl, rfl⟩), rfl, rfl⟩

theorem decides_of_outcome (client : HttpClient) (outcome : Http.Answer)
    (made : Http.prepare "GET" (url issuer) [("Accept", "application/json")] [] = .ok request) :
    Decides issuer client request outcome
      (noting (opening issuer) ++ ([⟨.send client request, outcome⟩]
        ++ noting (closing issuer (ofFetch issuer (Http.receive (url issuer) request outcome)))))
      (ofFetch issuer (Http.receive (url issuer) request outcome)) where
  once := traceOf_discover issuer _ _
  accepted _ := accepted_iff
  failed usual _ failed := kind_of_failed made usual failed
  spanned := exists_spanned rfl issuer _

theorem unsendable_of_refused {target : RequestUrl} {fault : Http.FetchFault} (client : HttpClient)
    (parses : RequestUrl.forRequest (url issuer) = .ok target)
    (refused : Http.prepare "GET" (url issuer) [("Accept", "application/json")] [] = .error fault) :
    Unsendable issuer client fault := by
  have isValue : fault.isValue = true := by
    rcases Http.prepare_eq_error refused with ⟨_, unread, _⟩ | isValue
    · cases parses.symm.trans unread
    · exact isValue
  refine ⟨refused, isValue, fun history result runs => ?_⟩
  obtain ⟨sent, fetched, fetches, rfl, rfl⟩ := runs_discover.1 runs
  rcases NetProgram.runs_fetch.1 fetches with ⟨_, again, rfl, rfl⟩ | ⟨_, _, made, _⟩
  · cases refused.symm.trans again
    exact ⟨traceOf_discover issuer [] _, (settles issuer).keeps fault (.inr isValue), exists_spanned rfl issuer _⟩
  · cases refused.symm.trans made

-- For an address that can be read, one request is made or none can be; every outcome has its run, and it decides.
theorem discovery_decides {target : RequestUrl} (parses : RequestUrl.forRequest (url issuer) = .ok target)
    (client : HttpClient) :
    (∃ request, Requests issuer target request
        ∧ (∀ history result, Runs (discover issuer client) history result →
            ∃ outcome, Decides issuer client request outcome history result)
        ∧ ∀ outcome, ∃ history result, Runs (discover issuer client) history result
            ∧ Decides issuer client request outcome history result)
      ∨ ∃ fault, Unsendable issuer client fault := by
  cases made : Http.prepare "GET" (url issuer) [("Accept", "application/json")] [] with
  | error fault => exact .inr ⟨fault, unsendable_of_refused client parses made⟩
  | ok request =>
    left
    obtain ⟨read, _, written, _, _, method⟩ := Http.prepare_eq_ok.1 made
    refine ⟨request, ⟨made, method.trans (by decide), ?_, ?_⟩, ?_, ?_⟩
    · cases parses.symm.trans read
      rfl
    · exact (Except.ok.inj written).symm
    · intro history result runs
      obtain ⟨outcome, rfl, rfl⟩ := (runs_discover_of_made made).1 runs
      exact ⟨outcome, decides_of_outcome client outcome made⟩
    · intro outcome
      exact ⟨_, _, (runs_discover_of_made made).2 ⟨outcome, rfl, rfl⟩, decides_of_outcome client outcome made⟩

end Discovery

namespace Sample

def astrayResponse : Http.Response := Sample.answered 302 [("Location", "https:foo")] [octets "\x7b\x7d"]

theorem forRequest_url_issuer : RequestUrl.forRequest (Discovery.url issuer) = .ok metadataRequest.url :=
  (Http.prepare_eq_ok.1 prepare_metadataRequest).1

theorem checkRedirect_astrayResponse :
    Http.checkRedirect metadataRequest.url astrayResponse = .error (.url .pathWithoutSlash) := by
  decide +kernel

end Sample

namespace Discovery

theorem discovery_decides_of_issuer :
    RequestUrl.forRequest (url Sample.issuer) = .ok Sample.metadataRequest.url
      ∧ ∃ history, Runs (discover Sample.issuer .given) history (.ok Sample.metadata)
          ∧ Decides Sample.issuer .given Sample.metadataRequest (.response Sample.metadataResponse) history
            (.ok Sample.metadata) := by
  obtain ⟨history, runs, trace⟩ := Sample.leaves_discover
  rcases discovery_decides Sample.forRequest_url_issuer .given with ⟨request, requests, decides, _⟩ | ⟨_, unsendable⟩
  · obtain ⟨outcome, decided⟩ := decides history _ runs
    cases requests.made.symm.trans Sample.prepare_metadataRequest
    cases decided.once.symm.trans trace
    exact ⟨Sample.forRequest_url_issuer, history, runs, decided⟩
  · cases unsendable.refused.symm.trans Sample.prepare_metadataRequest

-- The place that an answer leads to is not caught.
theorem failure_escapes_of_astray_answer :
    ∃ (history : List NetExchange) (failure : Failure),
      RequestUrl.forRequest (url Sample.issuer) = .ok Sample.metadataRequest.url
        ∧ Runs (discover Sample.issuer .given) history (.error failure)
        ∧ traceOf NetEffect.isAct history = [⟨.send .given Sample.metadataRequest, .response Sample.astrayResponse⟩]
        ∧ failure.kind = .invalidUrl := by
  have absolute : Http.checkAbsolute Sample.metadataRequest.url = .ok () := by decide +kernel
  have received : Http.receive (url Sample.issuer) Sample.metadataRequest (.response Sample.astrayResponse)
      = .error (.url .pathWithoutSlash) := by
    unfold Http.receive
    dsimp only
    rw [absolute, Sample.checkRedirect_astrayResponse]
    rfl
  refine ⟨_, .fetch (.url .pathWithoutSlash), Sample.forRequest_url_issuer,
    (runs_discover_of_made Sample.prepare_metadataRequest).2 ⟨.response Sample.astrayResponse, ?_, rfl⟩,
    traceOf_discover Sample.issuer _ _, rfl⟩
  rw [received]
  rfl

end Discovery

end OidcLogin
