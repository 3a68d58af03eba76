import OidcLogin.Proofs.Client.Requests
import OidcLogin.Proofs.Http.Faults
import OidcLogin.Proofs.Url.Scalar

namespace OidcLogin

open Program

section Fetch

variable {client : HttpClient} {method url content : Text} {headers : Http.Headers} {trace : List NetExchange}

-- The network answers, or raises a failure of its own.
def NetUsual (trace : List NetExchange) : Prop :=
  ∀ client request r, ⟨.send client request, .raised r⟩ ∈ trace → r.kind.isA .http = true

-- The network answers, or its failure is one of those that every fetch is prepared for.
def NetAnswers (trace : List NetExchange) : Prop :=
  ∀ client request r, ⟨.send client request, .raised r⟩ ∈ trace → Http.FetchFault.isNetwork (.raised r) = true

theorem NetUsual.answers (usual : NetUsual trace) : NetAnswers trace := by
  intro client request r member
  unfold Http.FetchFault.isNetwork
  rw [show (Http.FetchFault.raised r).kind = r.kind from rfl, usual client request r member, Bool.true_or,
    Bool.true_or]

-- How a fetch ends with a fault that is passed on, by what it sent before: no request can be sent to the
-- address, or the answer is one that leaks.
inductive FetchEscapes (client : HttpClient) (method url : Text) (headers : Http.Headers) (content : Text) :
    List NetExchange → Http.FetchFault → Prop
  | place {fault : RequestUrlFault} (refused : RequestUrl.forRequest url = .error fault)
      (written : ∀ refused, fault ≠ .unencodable refused) :
      FetchEscapes client method url headers content [] (.url fault)
  | answer {request : Http.Request} {response : Http.Response} {fault : Http.FetchFault}
      (made : Http.prepare method url headers content = .ok request)
      (received : Http.receive url request (.response response) = .error fault) (leaks : fault.Leaks) :
      FetchEscapes client method url headers content [⟨.send client request, .response response⟩] fault

theorem FetchEscapes.leaks {fault : Http.FetchFault}
    (escapes : FetchEscapes client method url headers content trace fault) : fault.Leaks := by
  cases escapes with
  | place refused written => exact .url written
  | answer made received leaks => exact leaks

theorem fetchEscapes_iff {fault : Http.FetchFault} (usual : NetAnswers trace) :
    Leaves NetEffect.isAct (NetProgram.fetch client method url headers content) trace (.error fault)
        ∧ fault.isNetwork = false ∧ fault.isValue = false
      ↔ FetchEscapes client method url headers content trace fault := by
  constructor
  · intro given
    obtain ⟨left, notNetwork, notValue⟩ := given
    rcases NetProgram.leaves_fetch.1 left with ⟨_, refused, rfl, same⟩ | ⟨request, outcome, made, rfl, received⟩
    · cases same
      rcases Http.prepare_eq_error refused with ⟨written, unread, rfl⟩ | value
      · cases Http.FetchFault.leaks_of_passes (fun _ impossible => by cases impossible) notNetwork notValue with
        | url encodable => exact .place unread encodable
      · rw [value] at notValue
        cases notValue
    · cases outcome with
      | raised r =>
        cases received
        have leaks := Http.FetchFault.leaks_of_passes
          (fun _ same => by cases same; exact usual client request r List.mem_cons_self) notNetwork notValue
        cases leaks
      | response response =>
        have unraised := Http.unraised_receive url request response
        have leaks := Http.FetchFault.leaks_of_passes
          (fun r same => absurd (same ▸ received.symm) (unraised r)) notNetwork notValue
        exact .answer made received.symm leaks
  · intro escapes
    refine ⟨?_, escapes.leaks.passes⟩
    cases escapes with
    | place refused written =>
      refine NetProgram.leaves_fetch.2 (.inl ⟨_, ?_, rfl, rfl⟩)
      unfold Http.prepare
      rw [refused]
    | answer made received leaks =>
      exact NetProgram.leaves_fetch.2 (.inr ⟨_, _, made, rfl, received.symm⟩)

-- What is made of a fetch: failures of one class, and the faults that are passed on.
structure Settles {α : Type}
    (settle : Except Http.FetchFault (Http.Response × Json) → List Note × Except Failure α)
    (kind : Kind) : Prop where
  passes : ∀ fault : Http.FetchFault, fault.isNetwork = false → fault.isValue = false →
    (settle (.error fault)).2 = .error (.fetch fault)
  keeps : ∀ fault : Http.FetchFault, fault.isNetwork = true ∨ fault.isValue = true →
    ∃ failure, (settle (.error fault)).2 = .error failure ∧ failure.kind = kind
  tells : ∀ answer failure, (settle (.ok answer)).2 = .error failure → failure.kind = kind

variable {α : Type} {settle : Except Http.FetchFault (Http.Response × Json) → List Note × Except Failure α}
  {kind : Kind} {failure : Failure}

theorem Settles.kind_of_failed (settles : Settles settle kind) (usual : NetAnswers trace)
    {fetched : Except Http.FetchFault (Http.Response × Json)}
    (left : Leaves NetEffect.isAct (NetProgram.fetch client method url headers content) trace fetched)
    (failed : (settle fetched).2 = .error failure) :
    failure.kind = kind
      ∨ ∃ fault, FetchEscapes client method url headers content trace fault ∧ failure = .fetch fault := by
  cases fetched with
  | ok answer => exact .inl (settles.tells answer failure failed)
  | error fault =>
    by_cases kept : fault.isNetwork = true ∨ fault.isValue = true
    · obtain ⟨other, told, same⟩ := settles.keeps fault kept
      cases told.symm.trans failed
      exact .inl same
    · obtain ⟨notNetwork, notValue⟩ := not_or.1 kept
      rw [Bool.not_eq_true] at notNetwork notValue
      cases (settles.passes fault notNetwork notValue).symm.trans failed
      exact .inr ⟨fault, (fetchEscapes_iff usual).1 ⟨left, notNetwork, notValue⟩, rfl⟩

theorem FetchEscapes.settled {fault : Http.FetchFault} (settles : Settles settle kind) (usual : NetAnswers trace)
    (escapes : FetchEscapes client method url headers content trace fault) :
    ∃ fetched, Leaves NetEffect.isAct (NetProgram.fetch client method url headers content) trace fetched
      ∧ (settle fetched).2 = .error (.fetch fault) := by
  obtain ⟨left, notNetwork, notValue⟩ := (fetchEscapes_iff usual).2 escapes
  exact ⟨_, left, settles.passes fault notNetwork notValue⟩

end Fetch

theorem FetchEscapes.isA_login {client : HttpClient} {method url content : Text} {headers : Http.Headers}
    {trace : List NetExchange} {fault : Http.FetchFault}
    (escapes : FetchEscapes client method url headers content trace fault) : fault.kind.isA .login = false := by
  rcases escapes.leaks.kind with invalid | deep
  · rw [invalid]; rfl
  · rw [deep]; rfl

namespace TokenExchange

variable {config : ProviderConfig} {client : HttpClient} {code redirectUri : Text} {sent : List NetExchange}
  {failure : Failure} {kind : Kind}

theorem settles (endpoint : Text) : Settles (ofFetch endpoint) .tokenExchange := by
  constructor
  case passes =>
    intro fault notNetwork notValue
    simp [ofFetch, notNetwork, notValue]
  case keeps =>
    intro fault kept
    by_cases network : fault.isNetwork
    · exact ⟨.token (.unreachable fault), by simp [ofFetch, network], rfl⟩
    · have value := kept.resolve_left network
      exact ⟨.token (.unreadable fault), by simp [ofFetch, network, value], rfl⟩
  case tells =>
    intro answer failure failed
    obtain ⟨response, document⟩ := answer
    rw [ofFetch_ok] at failed
    cases told : (ofResponse response document).2 with
    | error fault =>
      rw [told] at failed
      cases failed
      rfl
    | ok token =>
      rw [told] at failed
      cases failed

def BeyondLatin (config : ProviderConfig) : Prop := ∃ c ∈ config.clientId ++ config.clientSecret, 0x100 ≤ c.val

theorem exists_credentials : (∃ octets, credentials config = .ok octets) ↔ ¬ BeyondLatin config := by
  have colon : (CodePoint.ofChar ':').val < 0x100 := by decide
  have accepts : (∀ c ∈ config.clientId ++ CodePoint.ofChar ':' :: config.clientSecret,
      Charset.latin1.accepts c = true) ↔ ¬ BeyondLatin config := by
    unfold BeyondLatin
    simp only [List.forall_mem_append, List.forall_mem_cons, colon, true_and, not_exists, not_and, not_le,
      Charset.accepts, decide_eq_true_eq]
  rw [← accepts]
  constructor
  · intro written
    obtain ⟨octets, same⟩ := written
    exact (Text.encode_eq_ok.1 same).1
  · intro accepted
    exact ⟨_, Text.encode_eq_ok.2 ⟨accepted, rfl⟩⟩

theorem exists_form : (∃ body, Form.encode (formPairs code (some redirectUri)) = .ok body)
    ↔ code.IsScalar ∧ redirectUri.IsScalar := by
  have empty : Text.IsScalar [] := fun c impossible => absurd impossible List.not_mem_nil
  have grant : Text.IsScalar "grant_type" ∧ Text.IsScalar grantType := by decide
  have redirect : Text.IsScalar "redirect_uri" := by decide
  have code' : Text.IsScalar "code" := by decide
  rw [Form.exists_encode]
  unfold formPairs
  cases redirectUri with
  | nil =>
    cases code with
    | nil => simp [grant, empty]
    | cons c rest => simp [grant, empty, code']
  | cons d uri =>
    cases code with
    | nil => simp [grant, empty, redirect]
    | cons c rest => simp [grant, redirect, code', and_comm]

-- How an exchange ends with a failure of another class, by what it sent before.
inductive Escapes (config : ProviderConfig) (client : HttpClient) (code redirectUri : Text) :
    List NetExchange → Kind → Prop
  | form (surrogate : ¬ redirectUri.IsScalar) : Escapes config client code redirectUri [] .unicodeEncode
  | application (scalar : redirectUri.IsScalar) (beyond : BeyondLatin config) :
      Escapes config client code redirectUri [] .unicodeEncode
  | fetch {body authorization : Text} {sent : List NetExchange} {fault : Http.FetchFault}
      (form : prepare config (some code) (some redirectUri) = .ok (body, authorization))
      (escapes : FetchEscapes client "POST" config.tokenEndpoint (formHeaders authorization) body sent fault) :
      Escapes config client code redirectUri sent fault.kind

theorem Escapes.isA_login (escapes : Escapes config client code redirectUri sent kind) :
    kind.isA .login = false := by
  cases escapes with
  | form surrogate => rfl
  | application scalar beyond => rfl
  | fetch form escapes => exact escapes.isA_login

theorem prepare_cases (config : ProviderConfig) (code redirectUri : Text) :
    (∃ form, prepare config (some code) (some redirectUri) = .ok form)
        ∧ code.IsScalar ∧ redirectUri.IsScalar ∧ ¬ BeyondLatin config
      ∨ (∃ failed, prepare config (some code) (some redirectUri) = .error failed
            ∧ failed.kind = .unicodeEncode)
          ∧ ¬ (code.IsScalar ∧ redirectUri.IsScalar ∧ ¬ BeyondLatin config) := by
  rw [← and_assoc (c := ¬ BeyondLatin config), ← exists_form, ← exists_credentials]
  unfold prepare
  dsimp only
  cases Form.encode (formPairs code (some redirectUri)) with
  | error fault => exact .inr ⟨⟨.unencodable fault, rfl, rfl⟩, by simp⟩
  | ok body =>
    cases credentials config with
    | error fault => exact .inr ⟨⟨.unencodable fault, rfl, rfl⟩, by simp⟩
    | ok octets => exact .inl ⟨⟨(body, Http.basicAuthorization octets), rfl⟩, ⟨body, rfl⟩, octets, rfl⟩

theorem kind_of_failed (scalar : code.IsScalar) (usual : NetUsual sent) {failed : Failure}
    (left : Leaves NetEffect.isAct (exchange config client (some code) (some redirectUri)) sent (.error failed)) :
    failed.kind = .tokenExchange ∨ Escapes config client code redirectUri sent failed.kind := by
  rcases leaves_exchange.1 left with ⟨failure, refused, rfl, same⟩
    | ⟨body, authorization, fetched, form, fetch, same⟩
  · cases same
    rcases prepare_cases config code redirectUri with ⟨⟨form, made⟩, _⟩ | ⟨⟨other, told, kind⟩, unwritable⟩
    · cases refused.symm.trans made
    · cases refused.symm.trans told
      rw [kind]
      by_cases redirect : redirectUri.IsScalar
      · have beyond : BeyondLatin config := by
          by_contra latin
          exact unwritable ⟨scalar, redirect, latin⟩
        exact .inr (.application redirect beyond)
      · exact .inr (.form redirect)
  · rcases (settles config.tokenEndpoint).kind_of_failed usual.answers fetch same.symm with own | ⟨fault, escapes, rfl⟩
    · exact .inl own
    · exact .inr (.fetch form escapes)

theorem Escapes.fails (usual : NetUsual sent) (escapes : Escapes config client code redirectUri sent kind) :
    ∃ failed, Leaves NetEffect.isAct (exchange config client (some code) (some redirectUri)) sent (.error failed)
      ∧ failed.kind = kind := by
  have unwritten (unwritable : ¬ (code.IsScalar ∧ redirectUri.IsScalar ∧ ¬ BeyondLatin config)) :
      ∃ failed, Leaves NetEffect.isAct (exchange config client (some code) (some redirectUri)) [] (.error failed)
        ∧ failed.kind = .unicodeEncode := by
    rcases prepare_cases config code redirectUri with ⟨_, writable⟩ | ⟨⟨failed, told, kind⟩, _⟩
    · exact absurd writable unwritable
    · exact ⟨failed, leaves_exchange.2 (.inl ⟨failed, told, rfl, rfl⟩), kind⟩
  cases escapes with
  | form surrogate => exact unwritten fun given => surrogate given.2.1
  | application scalar beyond => exact unwritten fun given => given.2.2 beyond
  | fetch form escapes =>
    obtain ⟨fetched, left, passed⟩ := escapes.settled (settles config.tokenEndpoint) usual.answers
    exact ⟨_, leaves_exchange.2 (.inr ⟨_, _, fetched, form, left, passed.symm⟩), rfl⟩

end TokenExchange

namespace UserInfo

variable {config : ProviderConfig} {client : HttpClient} {accessToken : Text} {sent : List NetExchange}
  {kind : Kind}

theorem settles (endpoint : Text) : Settles (ofFetch endpoint) .userInfo := by
  constructor
  case passes =>
    intro fault notNetwork notValue
    simp [ofFetch, notNetwork, notValue]
  case keeps =>
    intro fault kept
    by_cases network : fault.isNetwork
    · exact ⟨.userInfo (.unreachable fault), by simp [ofFetch, network], rfl⟩
    · have value := kept.resolve_left network
      exact ⟨.userInfo (.unreadable fault), by simp [ofFetch, network, value], rfl⟩
  case tells =>
    intro answer failure failed
    obtain ⟨response, document⟩ := answer
    rw [ofFetch_ok] at failed
    cases told : (ofResponse response document).2 with
    | error fault =>
      rw [told] at failed
      cases failed
      rfl
    | ok claims =>
      rw [told] at failed
      cases failed

theorem kind_of_failed (usual : NetUsual sent) {failed : Failure}
    (left : Leaves NetEffect.isAct (fetch config client accessToken) sent (.error failed)) :
    failed.kind = .userInfo
      ∨ ∃ fault, FetchEscapes client "GET" config.userinfoEndpoint (headers accessToken) [] sent fault
        ∧ failed.kind = fault.kind := by
  obtain ⟨fetched, fetch, same⟩ := leaves_fetch.1 left
  rcases (settles config.userinfoEndpoint).kind_of_failed usual.answers fetch same.symm with own | ⟨fault, escapes, rfl⟩
  · exact .inl own
  · exact .inr ⟨fault, escapes, rfl⟩

theorem fails_of_escapes (usual : NetUsual sent) {fault : Http.FetchFault}
    (escapes : FetchEscapes client "GET" config.userinfoEndpoint (headers accessToken) [] sent fault) :
    Leaves NetEffect.isAct (fetch config client accessToken) sent (.error (.fetch fault)) := by
  obtain ⟨fetched, left, passed⟩ := escapes.settled (settles config.userinfoEndpoint) usual.answers
  exact leaves_fetch.2 ⟨fetched, left, passed.symm⟩

end UserInfo

end OidcLogin
