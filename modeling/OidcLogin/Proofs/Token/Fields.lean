import OidcLogin.Proofs.Client.Notes
import OidcLogin.Proofs.Json.Documents

namespace OidcLogin

open Program

namespace TokenExchange

open TokenResponse (NamesToken OptionalsFit)

variable {config : ProviderConfig} {client : HttpClient} {code redirectUri : Option Text} {request : Http.Request}
  {response : Http.Response} {payload : Members} {history : List NetExchange}
  {result : Except Failure TokenResponse} {fault : TokenFault} {report : Report} {accessToken tokenType : Text}

def lacksToken : Text := "OpenID Connect token response does not contain an access token"

theorem message_eq_lacksToken : fault.message = lacksToken ↔ ∃ report, fault = .invalid report := by
  constructor
  · intro same
    -- no other wording begins with this letter
    have first := congrArg List.head? same
    unfold TokenFault.message TokenFault.unable lacksToken at first
    cases fault with
    | invalid report => exact ⟨report, rfl⟩
    | noCode | unreachable _ | unreadable _ | notObject | otherType _ =>
      repeat rw [Text.ofString_ofList] at first
      cases first
    | rejected description =>
      cases description with
      | none | some _ =>
        repeat rw [Text.ofString_ofList] at first
        cases first
  · rintro ⟨report, rfl⟩
    rfl

-- The code was sent, and the answer is an object without an error, in a response of success that is not too large.
structure Answers (config : ProviderConfig) (code redirectUri : Option Text) (request : Http.Request)
    (response : Http.Response) (payload : Members) : Prop where
  posted : ∃ body authorization, prepare config code redirectUri = .ok (body, authorization)
    ∧ Http.prepare "POST" config.tokenEndpoint (formHeaders authorization) body = .ok request
  absolute : Http.checkAbsolute request.url = .ok ()
  success : 200 ≤ response.status ∧ response.status ≤ 299
  declared : Http.checkDeclaredLength config.tokenEndpoint response.headers = .ok ()
  small : response.chunks.flatten.length ≤ 1000000
  document : Json.ofBytes response.levels response.chunks.flatten = .ok (.object payload)
  noError : payload.has "error" = false

theorem checkRedirect_of_success (success : 200 ≤ response.status ∧ response.status ≤ 299) :
    Http.checkRedirect request.url response = .ok () := by
  have stays : Http.Redirect.statuses.contains response.status = false := by
    rw [Bool.eq_false_iff]
    intro leads
    have listed : response.status = 301 ∨ response.status = 302 ∨ response.status = 303 ∨ response.status = 307
        ∨ response.status = 308 := by simpa [Http.Redirect.statuses] using leads
    omega
  unfold Http.checkRedirect Http.Redirect.location?
  rw [stays]
  rfl

theorem Answers.received (answers : Answers config code redirectUri request response payload) :
    Http.receive config.tokenEndpoint request (.response response) = .ok (response, .object payload) :=
  Http.receive_eq_ok.2 ⟨rfl, answers.absolute, checkRedirect_of_success answers.success, answers.declared,
    answers.small, (Http.decodeBody_of_isSuccess (Http.isSuccess_iff.2 answers.success)).2 answers.document⟩

theorem ofFetch_object (success : response.isSuccess = true) (noError : payload.has "error" = false)
    (endpoint : Text) :
    ofFetch endpoint (.ok (response, .object payload)) = ([], (ofPayload payload).mapError (.token ·)) := by
  have answered : ofResponse response (.object payload) = ([], ofPayload payload) := by
    unfold ofResponse
    dsimp only
    rw [noError, success]
    rfl
  unfold ofFetch
  dsimp only
  rw [answered]
  cases ofPayload payload with
  | error fault => rfl
  | ok token => rfl

theorem exchange_eq {body authorization : Text} (form : prepare config code redirectUri = .ok (body, authorization)) :
    exchange config client code redirectUri
      = NetProgram.fetch client "POST" config.tokenEndpoint (formHeaders authorization) body >>= fun fetched =>
          NetProgram.noteAll (ofFetch config.tokenEndpoint fetched).1 >>= fun _ =>
            pure (ofFetch config.tokenEndpoint fetched).2 := by
  unfold exchange
  rw [form]

theorem runs_exchange_of_answers (answers : Answers config code redirectUri request response payload) :
    Runs (exchange config client code redirectUri) (⟨.send client request, .response response⟩ :: history) result
      ↔ history = [] ∧ result = (ofPayload payload).mapError (.token ·) := by
  obtain ⟨body, authorization, form, made⟩ := answers.posted
  have told := ofFetch_object (Http.isSuccess_iff.2 answers.success) answers.noError config.tokenEndpoint
  rw [exchange_eq form]
  constructor
  · intro runs
    obtain ⟨rfl, rfl⟩ := NetProgram.runs_answered runs
    rw [answers.received, told]
    exact ⟨rfl, rfl⟩
  · rintro ⟨rfl, rfl⟩
    have runs := NetProgram.runs_of_answer client made (ofFetch config.tokenEndpoint) (.response response)
    rwa [answers.received, told] at runs

theorem ofResponse_eq_invalid {document : Json}
    (refused : (ofResponse response document).2 = .error (.invalid report)) :
    response.isSuccess = true ∧ ∃ payload, document = .object payload ∧ Members.has payload "error" = false
      ∧ ofPayload payload = .error (.invalid report) := by
  cases success : response.isSuccess with
  | false => simp [ofResponse, success] at refused
  | true =>
    cases document with
    | object payload =>
      cases named : Members.has payload "error" with
      | true => simp [ofResponse, success, named] at refused
      | false => exact ⟨rfl, payload, rfl, named, by simpa [ofResponse, success, named] using refused⟩
    | null | bool _ | int _ | float _ | text _ | list _ => simp [ofResponse, success, Members.has] at refused

theorem ofFetch_eq_invalid {endpoint : Text} {fetched : Except Http.FetchFault (Http.Response × Json)}
    (refused : (ofFetch endpoint fetched).2 = .error (.token (.invalid report))) :
    ∃ response payload, fetched = .ok (response, .object payload) ∧ response.isSuccess = true
      ∧ Members.has payload "error" = false ∧ ofPayload payload = .error (.invalid report) := by
  cases fetched with
  | error fault =>
    by_cases network : fault.isNetwork
    · simp [ofFetch, network] at refused
    · by_cases value : fault.isValue
      · simp [ofFetch, network, value] at refused
      · simp [ofFetch, network, value] at refused
  | ok answer =>
    obtain ⟨response, document⟩ := answer
    rw [ofFetch_ok] at refused
    cases answered : (ofResponse response document).2 with
    | ok token =>
      rw [answered] at refused
      cases refused
    | error fault =>
      rw [answered] at refused
      cases refused
      obtain ⟨success, payload, rfl, noError, invalid⟩ := ofResponse_eq_invalid answered
      exact ⟨response, payload, rfl, success, noError, invalid⟩

theorem prepare_ne_invalid : prepare config code redirectUri ≠ .error (.token (.invalid report)) := by
  unfold prepare
  intro refused
  split at refused
  · cases refused
  · split at refused
    · cases refused
    · split at refused
      · cases refused
      · cases refused

theorem answers_of_invalid
    (runs : Runs (exchange config client code redirectUri) history (.error (.token (.invalid report)))) :
    ∃ request response payload, history = [⟨.send client request, .response response⟩]
      ∧ Answers config code redirectUri request response payload ∧ ofPayload payload = .error (.invalid report) := by
  cases form : prepare config code redirectUri with
  | error failure =>
    unfold exchange at runs
    rw [form] at runs
    cases (runs_done.1 runs).2
    exact absurd form prepare_ne_invalid
  | ok prepared =>
    obtain ⟨body, authorization⟩ := prepared
    rw [exchange_eq form] at runs
    obtain ⟨sent, fetched, fetching, rfl, refused⟩ := NetProgram.runs_settled.1 runs
    obtain ⟨response, payload, rfl, success, noError, invalid⟩ := ofFetch_eq_invalid refused.symm
    rcases NetProgram.runs_fetch.1 fetching with ⟨_, _, _, impossible⟩ | ⟨request, outcome, made, rfl, received⟩
    · cases impossible
    · obtain ⟨rfl, absolute, _, declared, small, decoded⟩ := Http.receive_eq_ok.1 received.symm
      rw [ofFetch_object success noError]
      exact ⟨request, response, payload, rfl, ⟨⟨body, authorization, form, made⟩, absolute,
        Http.isSuccess_iff.1 success, declared, small, (Http.decodeBody_of_isSuccess success).1 decoded, noError⟩,
        invalid⟩

theorem ofPayload_eq_invalid :
    (∃ report, ofPayload payload = .error (.invalid report)) ↔ ¬ ∃ token, TokenResponse.read payload = .ok token := by
  unfold ofPayload
  cases made : TokenResponse.read payload with
  | refused violations => simp [Checked.toExcept]
  | ok token =>
    by_cases bearer : token.isBearer
    · simp [Checked.toExcept, bearer]
    · simp [Checked.toExcept, bearer]

theorem misfit_iff :
    ((¬ ∃ accessToken tokenType, NamesToken payload accessToken tokenType) ∨ ¬ OptionalsFit payload)
      ↔ ∃ report, ofPayload payload = .error (.invalid report) := by
  rw [ofPayload_eq_invalid, ← not_and_or, not_iff_not]
  constructor
  · rintro ⟨⟨accessToken, tokenType, names⟩, fit⟩
    obtain ⟨token, made, _⟩ := TokenResponse.exists_read_iff.2 ⟨names, fit⟩
    exact ⟨token, made⟩
  · rintro ⟨token, made⟩
    obtain ⟨names, fit⟩ := TokenResponse.exists_read_iff.1 ⟨token, made, rfl, rfl⟩
    exact ⟨⟨_, _, names⟩, fit⟩

theorem runs_ok_iff (answers : Answers config code redirectUri request response payload)
    (names : NamesToken payload accessToken tokenType) (bearer : tokenType.lower = "bearer") :
    (∃ token, Runs (exchange config client code redirectUri) [⟨.send client request, .response response⟩]
          (.ok token)
        ∧ token.accessToken = accessToken ∧ token.tokenType = tokenType)
      ↔ OptionalsFit payload := by
  have reads : (∃ token, TokenResponse.read payload = .ok token ∧ token.accessToken = accessToken
      ∧ token.tokenType = tokenType) ↔ OptionalsFit payload :=
    TokenResponse.exists_read_iff.trans (and_iff_right names)
  rw [← reads]
  constructor
  · rintro ⟨token, runs, sameAccess, sameType⟩
    obtain ⟨_, made⟩ := (runs_exchange_of_answers answers).1 runs
    exact ⟨token, (ofPayload_eq_ok.1 (except_mapError_eq_ok.1 made.symm)).1, sameAccess, sameType⟩
  · rintro ⟨token, made, sameAccess, rfl⟩
    refine ⟨token, (runs_exchange_of_answers answers).2 ⟨rfl, ?_⟩, sameAccess, rfl⟩
    rw [ofPayload_eq_ok.2 ⟨made, decide_eq_true bearer⟩]
    rfl

theorem answers_of_sample {pairs : List (Text × Text)} (status : response.status = 200) (bare : response.headers = [])
    (read : (Json.objectOf? (Json.ofBytes response.levels response.chunks.flatten)).bind Members.texts? = some pairs)
    (small : response.chunks.flatten.length ≤ 1000000) (noError : (Members.ofTexts pairs).has "error" = false) :
    Answers Sample.config (some "abc") (some Sample.config.callbackUrl) Sample.tokenRequest response
      (Members.ofTexts pairs) where
  posted := ⟨_, _, Sample.prepare_form Sample.config rfl rfl, Sample.prepare_tokenRequest⟩
  absolute := rfl
  success := by
    rw [status]
    decide
  declared := by
    rw [bare]
    rfl
  small := small
  document := Json.eq_object_of_texts? read
  noError := noError

-- With both members of a token the others decide, and a response is said to lack an access token exactly if one of
-- all six does not fit.
theorem exchange_decides_by_fields (config : ProviderConfig) (client : HttpClient) (code redirectUri : Option Text) :
    (∀ request response payload accessToken tokenType, Answers config code redirectUri request response payload →
        NamesToken payload accessToken tokenType → tokenType.lower = "bearer" →
        ((∃ token, Runs (exchange config client code redirectUri) [⟨.send client request, .response response⟩]
              (.ok token)
            ∧ token.accessToken = accessToken ∧ token.tokenType = tokenType)
          ↔ OptionalsFit payload)
        ∧ (¬ OptionalsFit payload → ∃ fault, fault.message = lacksToken
            ∧ Runs (exchange config client code redirectUri) [⟨.send client request, .response response⟩]
              (.error (.token fault))))
      ∧ ∀ history fault, Runs (exchange config client code redirectUri) history (.error (.token fault)) →
          (fault.message = lacksToken
            ↔ ∃ request response payload, history = [⟨.send client request, .response response⟩]
                ∧ Answers config code redirectUri request response payload
                ∧ ((¬ ∃ accessToken tokenType, NamesToken payload accessToken tokenType)
                  ∨ ¬ OptionalsFit payload)) := by
  constructor
  · intro request response payload accessToken tokenType answers names bearer
    refine ⟨runs_ok_iff answers names bearer, fun misfit => ?_⟩
    obtain ⟨report, invalid⟩ := misfit_iff.1 (.inr misfit)
    refine ⟨.invalid report, rfl, (runs_exchange_of_answers answers).2 ⟨rfl, ?_⟩⟩
    rw [invalid]
    rfl
  · intro history fault runs
    rw [message_eq_lacksToken]
    constructor
    · rintro ⟨report, rfl⟩
      obtain ⟨request, response, payload, sent, answers, invalid⟩ := answers_of_invalid runs
      exact ⟨request, response, payload, sent, answers, misfit_iff.2 ⟨report, invalid⟩⟩
    · rintro ⟨request, response, payload, rfl, answers, misfit⟩
      obtain ⟨report, invalid⟩ := misfit_iff.1 misfit
      obtain ⟨_, made⟩ := (runs_exchange_of_answers answers).1 runs
      rw [invalid] at made
      cases made
      exact ⟨report, rfl⟩

def numeralResponse : Http.Response :=
  Sample.answered 200 [] [Sample.octets
    "\x7b\"access_token\":\"at\",\"token_type\":\"bEARER\",\"expires_in\":\" +3_600.0\"\x7d"]

def typeResponse : Http.Response := Sample.answered 200 [] [Sample.octets "\x7b\"token_type\":\"Bearer\"\x7d"]

def wordResponse : Http.Response :=
  Sample.answered 200 [] [Sample.octets "\x7b\"access_token\":\"at\",\"token_type\":\"Bearer\",\"expires_in\":\"soon\"\x7d"]

theorem exchange_decides_by_fields_of_sample :
    (∃ token, Runs (exchange Sample.config .given (some "abc") (some Sample.config.callbackUrl))
        [⟨.send .given Sample.tokenRequest, .response numeralResponse⟩] (.ok token)
      ∧ token.accessToken = "at" ∧ token.tokenType = "bEARER")
    ∧ ∃ fault, fault.message = lacksToken
      ∧ Runs (exchange Sample.config .given (some "abc") (some Sample.config.callbackUrl))
        [⟨.send .given Sample.tokenRequest, .response typeResponse⟩] (.error (.token fault)) := by
  obtain ⟨granted, refused⟩ :=
    exchange_decides_by_fields Sample.config .given (some "abc") (some Sample.config.callbackUrl)
  constructor
  · have answers : Answers Sample.config (some "abc") (some Sample.config.callbackUrl) Sample.tokenRequest
        numeralResponse
        (Members.ofTexts [("access_token", "at"), ("token_type", "bEARER"), ("expires_in", " +3_600.0")]) :=
      answers_of_sample rfl rfl (by decide +kernel) (by decide) rfl
    refine (granted _ _ _ "at" "bEARER" answers ⟨rfl, by decide, by decide, rfl⟩ (by decide)).1.2 ?_
    exact ⟨⟨none, .absent⟩, ⟨none, .absent⟩,
      ⟨some 3600, .given nofun (Reader.int_eq_ok.1 (rfl : Reader.int ⟨"expires_in", none⟩ _ = _))⟩, ⟨none, .absent⟩⟩
  · let payload : Members := Members.ofTexts [("token_type", "Bearer")]
    have answers : Answers Sample.config (some "abc") (some Sample.config.callbackUrl) Sample.tokenRequest typeResponse
        payload := answers_of_sample rfl rfl (by decide +kernel) (by decide) rfl
    have lacks : ¬ ∃ accessToken tokenType, NamesToken payload accessToken tokenType := by
      rintro ⟨_, _, ⟨named, _, _, _⟩⟩
      cases named
    obtain ⟨report, invalid⟩ := misfit_iff.1 (.inl lacks)
    have runs : Runs (exchange Sample.config .given (some "abc") (some Sample.config.callbackUrl))
        [⟨.send .given Sample.tokenRequest, .response typeResponse⟩] (.error (.token (.invalid report))) := by
      refine (runs_exchange_of_answers answers).2 ⟨rfl, ?_⟩
      rw [invalid]
      rfl
    exact ⟨_, (refused _ _ runs).2 ⟨_, _, _, rfl, answers, .inl lacks⟩, runs⟩

-- The access token is there, and yet the response is said to lack it.
theorem token_lost_to_its_lifetime :
    ∃ payload,
      Answers Sample.config (some "abc") (some Sample.config.callbackUrl) Sample.tokenRequest wordResponse payload
      ∧ NamesToken payload "at" "Bearer"
      ∧ ∀ history result, Runs (exchange Sample.config .given (some "abc") (some Sample.config.callbackUrl))
          (⟨.send .given Sample.tokenRequest, .response wordResponse⟩ :: history) result →
          ∃ fault, result = .error (.token fault) ∧ fault.message = lacksToken := by
  let payload : Members :=
    Members.ofTexts [("access_token", "at"), ("token_type", "Bearer"), ("expires_in", "soon")]
  have answers : Answers Sample.config (some "abc") (some Sample.config.callbackUrl) Sample.tokenRequest wordResponse
      payload := answers_of_sample rfl rfl (by decide +kernel) (by decide) rfl
  refine ⟨payload, answers, ⟨rfl, by decide, by decide, rfl⟩, ?_⟩
  have unread : ¬ ∃ token, TokenResponse.read payload = .ok token := by
    rintro ⟨token, made⟩
    cases made
  obtain ⟨report, invalid⟩ := ofPayload_eq_invalid.2 unread
  intro history result runs
  obtain ⟨_, rfl⟩ := (runs_exchange_of_answers answers).1 runs
  rw [invalid]
  exact ⟨_, rfl, rfl⟩

end TokenExchange

end OidcLogin
