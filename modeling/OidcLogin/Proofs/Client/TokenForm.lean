import Mathlib.Data.List.Basic
import OidcLogin.Proofs.Authorization.ReadBack
import OidcLogin.Proofs.Callback.Failures
import OidcLogin.Proofs.Program.Lockstep
import OidcLogin.Proofs.Url.QueryPlace

namespace OidcLogin

open Program

variable {User : Type}

namespace Form

-- Octets of ASCII that are read as these pairs, blank values included.
def Tells (octets : Bytes) (pairs : Pairs) : Prop :=
  ∃ text : Text, text.encode .ascii = .ok octets ∧ decode true text = pairs

theorem isAscii_of_encode {pairs : Pairs} {body : Text} (written : encode pairs = .ok body) :
    ∀ c ∈ body, c.isAscii = true := by
  intro c member
  rcases mem_encode written member with inside | rfl | rfl
  · exact isAscii_of_isWritten inside
  · rfl
  · rfl

theorem tells_of_encode {pairs : Pairs} {body : Text} {octets : Bytes} (written : encode pairs = .ok body)
    (sent : body.encode .utf8 = .ok octets) : Tells octets pairs := by
  have ascii := isAscii_of_encode written
  have single : ∀ c ∈ body, c.utf8 = [UInt8.ofNat c.val] := by
    intro c member
    exact if_pos (of_decide_eq_true (ascii c member))
  obtain ⟨_, rfl⟩ := Text.encode_eq_ok.1 sent
  refine ⟨body, Text.encode_eq_ok.2 ⟨ascii, ?_⟩, decode_encode written⟩
  exact List.flatMap_congr single

end Form

namespace TokenExchange

variable {config : ProviderConfig} {client : HttpClient} {code redirectUri : Text} {posted : Http.Request}

def request? (config : ProviderConfig) (code redirectUri : Text) : Option Http.Request :=
  match prepare config (some code) (some redirectUri) with
  | .error _ => none
  | .ok (body, authorization) =>
    (Http.prepare "POST" config.tokenEndpoint (formHeaders authorization) body).toOption

theorem request?_eq_some :
    request? config code redirectUri = some posted
      ↔ ∃ body authorization, prepare config (some code) (some redirectUri) = .ok (body, authorization)
          ∧ Http.prepare "POST" config.tokenEndpoint (formHeaders authorization) body = .ok posted := by
  unfold request?
  cases prepare config (some code) (some redirectUri) with
  | error failure => simp
  | ok form =>
    obtain ⟨body, authorization⟩ := form
    constructor
    · intro found
      exact ⟨body, authorization, rfl, except_eq_ok_of_toOption found⟩
    · rintro ⟨_, _, ⟨⟩, made⟩
      dsimp only
      rw [made]
      rfl

theorem formPairs_of_ne_nil (someCode : code ≠ []) (somePlace : redirectUri ≠ []) :
    formPairs code (some redirectUri)
      = ([("grant_type", "authorization_code"), ("redirect_uri", redirectUri), ("code", code)] : Form.Pairs) := by
  cases code with
  | nil => exact absurd rfl someCode
  | cons c rest =>
    cases redirectUri with
    | nil => exact absurd rfl somePlace
    | cons d place => rfl

theorem exists_octets {body authorization : Text}
    (form : prepare config (some code) (some redirectUri) = .ok (body, authorization)) :
    ∃ octets, body.encode .utf8 = .ok octets := by
  obtain ⟨_, _, _, written, _, _⟩ := prepare_eq_ok.1 form
  apply Text.exists_encode_utf8.2
  intro c member
  have ascii := of_decide_eq_true (Form.isAscii_of_encode written c member)
  unfold CodePoint.IsScalar CodePoint.isSurrogate
  rw [Bool.and_eq_false_iff, decide_eq_false_iff_not]
  left
  omega

theorem tells_of_request? (made : request? config code redirectUri = some posted) (someCode : code ≠ [])
    (somePlace : redirectUri ≠ []) :
    Form.Tells posted.body [("grant_type", "authorization_code"), ("redirect_uri", redirectUri), ("code", code)] := by
  obtain ⟨body, authorization, form, request⟩ := request?_eq_some.1 made
  obtain ⟨_, _, ⟨⟩, written, _, _⟩ := prepare_eq_ok.1 form
  obtain ⟨_, _, sent, _⟩ := Http.prepare_eq_ok.1 request
  rw [← formPairs_of_ne_nil someCode somePlace]
  exact Form.tells_of_encode written sent

end TokenExchange

def NetEffect.posted? : NetEffect → Option Http.Request
  | .send _ request => if request.method = "POST" then some request else none
  | _ => none

def LoginEffect.posted? : LoginEffect User → Option Http.Request
  | .net effect => effect.posted?
  | _ => none

def posts (history : List (LoginExchange User)) : List Http.Request :=
  history.filterMap fun exchange => exchange.1.posted?

section Posts

variable {config : ProviderConfig} {client : HttpClient} {code redirectUri : Text} {sent : List NetExchange}
  {history other : List (LoginExchange User)}

theorem posts_append : posts (history ++ other) = posts history ++ posts other :=
  List.filterMap_append

theorem posts_traceOf : posts (traceOf LoginEffect.isAct history) = posts history := by
  unfold posts traceOf
  rw [List.filterMap_filter]
  congr 1
  funext exchange
  obtain ⟨effect, reply⟩ := exchange
  cases effect with
  | net effect => cases effect with
    | note n => rfl
    | send _ _ | openClient _ | closeClient _ => rfl
  | draw _ | login _ _ _ | establish _ _ | audit _ _ => rfl

theorem posts_lifted : posts (sent.map NetProgram.lifted : List (LoginExchange User))
    = sent.filterMap fun exchange => exchange.1.posted? := by
  unfold posts
  rw [List.filterMap_map]
  rfl

theorem posts_exchange {result : Except Failure TokenResponse}
    (left : Leaves NetEffect.isAct (TokenExchange.exchange config client (some code) (some redirectUri)) sent result) :
    posts (sent.map NetProgram.lifted : List (LoginExchange User))
      = (TokenExchange.request? config code redirectUri).toList := by
  rw [posts_lifted]
  unfold TokenExchange.request?
  rcases TokenExchange.leaves_exchange.1 left with ⟨failure, unprepared, rfl, _⟩
    | ⟨body, authorization, fetched, form, fetch, _⟩
  · rw [unprepared]
    rfl
  · rw [form]
    dsimp only
    rcases NetProgram.leaves_fetch.1 fetch with ⟨fault, refused, rfl, _⟩ | ⟨request, outcome, made, rfl, _⟩
    · rw [refused]
      rfl
    · have posted : request.method = "POST" := (Http.prepare_eq_ok.1 made).2.2.2.2.2
      rw [made, List.filterMap_cons, NetEffect.posted?, if_pos posted]
      rfl

theorem posts_fetch {accessToken : Text} {result : Except Failure Members}
    (left : Leaves NetEffect.isAct (UserInfo.fetch config client accessToken) sent result) :
    posts (sent.map NetProgram.lifted : List (LoginExchange User)) = [] := by
  rw [posts_lifted]
  obtain ⟨fetched, fetch, _⟩ := UserInfo.leaves_fetch.1 left
  rcases NetProgram.leaves_fetch.1 fetch with ⟨fault, _, rfl, _⟩ | ⟨request, outcome, made, rfl, _⟩
  · rfl
  · have got : request.method = Text.capitals "GET" := (Http.prepare_eq_ok.1 made).2.2.2.2.2
    rw [List.filterMap_cons, NetEffect.posted?, if_neg (by rw [got]; decide)]
    rfl

theorem posts_of_expands {acts : List (CallbackExchange User)}
    (others : ∀ act ∈ acts, act.1.isExchange = false)
    (expanded : Expands LoginEffect.isAct (OidcClient.overHttp config client).answer acts history) :
    posts history = [] := by
  induction expanded with
  | nil => rfl
  | @cons effect reply outer first second one rest ih =>
    obtain ⟨notExchange, further⟩ := List.forall_mem_cons.1 others
    rw [posts_append, ih further, List.append_nil]
    cases effect with
    | note n =>
      obtain ⟨_, after⟩ := (leaves_dropped rfl).1 one
      obtain ⟨rfl, _⟩ := leaves_done.1 after
      rfl
    | exchangeCode _ _ => cases notExchange
    | fetchUserInfo accessToken =>
      obtain ⟨sent, fetch, rfl⟩ := NetProgram.leaves_lift.1 one
      exact posts_fetch fetch
    | login _ _ _ | establish _ _ | audit _ _ =>
      obtain rfl := (leaves_asked rfl).1 one
      rfl

end Posts

theorem Authorization.decode_queryText {endpoint clientId state redirectUri address : Text} {scopes : List Text}
    (made : url endpoint clientId scopes state redirectUri = .ok address) :
    ∃ own, Url.split endpoint = .ok own
      ∧ Form.decode true (Url.queryText address)
        = Form.decode true own.query ++ parameters clientId scopes state redirectUri := by
  unfold url at made
  split at made
  · cases made
  · rename_i own split
    dsimp only at made
    split at made
    · cases made
    · rename_i query written
      cases made
      refine ⟨own, split, ?_⟩
      rw [Url.queryText_unsplit split (Form.noMark_of_encode written).1, Form.decode_encode written]

namespace CallbackHandler

variable {config : ProviderConfig} {client : HttpClient} {query code : Text} {expected : Option Text}
  {request : CallbackRequest}

def Names (request : CallbackRequest) (uri : Text) : Prop :=
  request.queryParams.lookup ("redirect_uri" : Text) = some (some uri) ∧ uri ≠ []

-- Where a callback was redirected to: the address that its request names, or else the configured one.
inductive RedirectedTo (config : ProviderConfig) (request : CallbackRequest) : Text → Prop
  | named {uri : Text} (names : Names request uri) : RedirectedTo config request uri
  | configured (nameless : ∀ uri, ¬ Names request uri) : RedirectedTo config request config.callbackUrl

theorem redirectedTo (h : CallbackHandler) (request : CallbackRequest) :
    RedirectedTo h.config request (h.redirectUri request) := by
  have parameter : redirectParameter = "redirect_uri" := rfl
  unfold redirectUri
  rw [parameter]
  cases found : request.queryParams.lookup ("redirect_uri" : Text) with
  | none =>
    apply RedirectedTo.configured
    rintro uri ⟨given, _⟩
    cases found.symm.trans given
  | some value =>
    cases value with
    | none =>
      apply RedirectedTo.configured
      rintro uri ⟨given, _⟩
      cases found.symm.trans given
    | some uri =>
      cases uri with
      | nil =>
        apply RedirectedTo.configured
        rintro uri ⟨given, full⟩
        cases found.symm.trans given
        exact full rfl
      | cons c rest => exact .named ⟨found, List.cons_ne_nil c rest⟩

theorem RedirectedTo.ne_nil {redirect : Text} (redirected : RedirectedTo config request redirect)
    (called : config.callbackUrl ≠ []) : redirect ≠ [] := by
  cases redirected with
  | named names => exact names.2
  | configured nameless => exact called

theorem TakesOver.exchangesNothing {identity : UserIdentity} {acts : List (CallbackExchange User)}
    {outcome : Except Failure Unit} (taken : TakesOver request identity acts outcome) :
    ∀ act ∈ acts, act.1.isExchange = false := by
  cases taken with
  | unknown | unbound | unrecorded | taken => simp [CallbackEffect.isExchange]

theorem Course.exchangesOnce {acts : List (CallbackExchange User)} {outcome : Except Failure Unit}
    (course : Course (ofConfig config) query request expected acts outcome)
    (parsed : Callback.parse query expected = .ok code) :
    ∃ reply rest, acts = ⟨.exchangeCode code ((ofConfig config).redirectUri request), reply⟩ :: rest
      ∧ ∀ act ∈ rest, act.1.isExchange = false := by
  have same {read : Text} (again : Callback.parse query expected = .ok read) : read = code :=
    Except.ok.inj (again.symm.trans parsed)
  cases course with
  | unread refused => cases refused.symm.trans parsed
  | unexchanged read failure =>
    obtain rfl := same read
    exact ⟨_, _, rfl, List.forall_mem_nil _⟩
  | unfetched read token failure =>
    obtain rfl := same read
    exact ⟨_, _, rfl, by simp [CallbackEffect.isExchange]⟩
  | refused read token mapped =>
    obtain rfl := same read
    exact ⟨_, _, rfl, by simp [CallbackEffect.isExchange]⟩
  | admitted read token mapped after =>
    obtain rfl := same read
    exact ⟨_, _, rfl, List.forall_mem_cons.2 ⟨rfl, after.exchangesNothing⟩⟩

theorem posts_handle {history : List (LoginExchange User)} {result : Except Failure Text}
    (parsed : Callback.parse query expected = .ok code)
    (runs : Runs (((ofConfig config).handle query request expected).withClient (.overHttp config client)) history
      result) :
    posts history
      = (TokenExchange.request? config code ((ofConfig config).redirectUri request)).toList := by
  obtain ⟨acts, outcome, course, _, expanded⟩ := leaves_withClient.1 runs.leaves
  obtain ⟨reply, rest, rfl, others⟩ := course.exchangesOnce parsed
  obtain ⟨sent, trace, same, left, later⟩ := (expands_lifted rfl).1 expanded
  rw [← posts_traceOf, same, posts_append, posts_of_expands others later, List.append_nil]
  exact posts_exchange left

-- The token request carries the code and the redirect address as they are, each once and nothing else besides the
-- kind of grant; it can be made where they can be written; and without a word of the request of the callback the
-- address is the one that the login was begun with, which the address of the login carries once.
theorem token_request_is_verbatim (called : config.callbackUrl ≠ [])
    (parsed : Callback.parse query expected = .ok code) (request : CallbackRequest) :
    ∃ redirect, RedirectedTo config request redirect
      ∧ (∀ (User : Type) (client : HttpClient) (history : List (LoginExchange User)) (result : Except Failure Text),
          Runs (((ofConfig config).handle query request expected).withClient (.overHttp config client)) history
            result →
          posts history = (TokenExchange.request? config code redirect).toList
            ∧ ∀ posted ∈ posts history, Form.Tells posted.body
              [("grant_type", "authorization_code"), ("redirect_uri", redirect), ("code", code)])
      ∧ (query.IsScalar → redirect.IsScalar → ¬ TokenExchange.BeyondLatin config →
          ∃ form, TokenExchange.prepare config (some code) (some redirect) = .ok form)
      ∧ ((∀ uri, ¬ Names request uri) →
          ∀ (User : Type) (m : LoginManager) (history : List (LoginExchange User)) (asked : AuthorizationRequest),
            m.config = config → m.oidc = .overHttp config m.client →
            Runs m.authorizationRequest history (.ok asked) →
            ∃ own parameters, Url.split config.authorizationEndpoint = .ok own
              ∧ Form.decode true (Url.queryText asked.url) = Form.decode true own.query ++ parameters
              ∧ parameters.filter (fun pair => pair.1 = ("redirect_uri" : Text))
                = ([("redirect_uri", redirect)] : Form.Pairs)) := by
  have redirected := redirectedTo (ofConfig config) request
  refine ⟨_, redirected, ?_, ?_, ?_⟩
  · intro User client history result runs
    have all := posts_handle parsed runs
    refine ⟨all, ?_⟩
    intro posted member
    rw [all, Option.mem_toList] at member
    obtain ⟨_, found, _⟩ := Callback.parse_eq_ok.1 parsed
    have someCode : code ≠ [] := (Form.mem_filled.1 (Form.mem_of_last? found)).2
    exact TokenExchange.tells_of_request? member someCode (redirected.ne_nil called)
  · intro query redirect latin
    rcases TokenExchange.prepare_cases config code ((ofConfig config).redirectUri request) with
      ⟨prepared, _⟩ | ⟨_, unwritable⟩
    · exact prepared
    · exact absurd ⟨Callback.code_isScalar query parsed, redirect, latin⟩ unwritable
  · intro nameless User m history asked sameConfig overHttp runs
    obtain ⟨draws, made⟩ := LoginManager.runs_authorizationRequest runs
    subst sameConfig
    unfold LoginManager.requestOf at made
    rw [overHttp] at made
    obtain ⟨address, written, rfl⟩ := except_map_eq_ok.1 made.symm
    obtain ⟨own, split, carried⟩ := Authorization.decode_queryText written
    refine ⟨own, _, split, carried, ?_⟩
    have drawn := Authorization.stateOf_vector_ne_nil draws
    rw [Authorization.parameters_eq _ (Authorization.scopes_ne_nil m.config) drawn called]
    generalize (ofConfig m.config).redirectUri request = redirect at redirected
    cases redirected with
    | named names => exact absurd names (nameless _)
    | configured nameless => rfl

theorem token_request_is_verbatim_of_marks :
    let code : Text := "4/0&redirect_uri=x y#"
    let redirect : Text := "https://b.example/?code=1&x=\t%é"
    let request : CallbackRequest := ⟨[("code", some code), ("redirect_uri", some redirect)]⟩
    ∃ (history : List (LoginExchange Text)) (result : Except Failure Text) (posted : Http.Request),
      Runs (((ofConfig Sample.config).handle "code=4%2f0%26redirect_uri=x+y%23" request none).withClient
          (.overHttp Sample.config .given)) history result
        ∧ posts history = [posted]
        ∧ Form.Tells posted.body
          [("grant_type", "authorization_code"), ("redirect_uri", redirect), ("code", code)] := by
  intro code redirect request
  have parsed : Callback.parse "code=4%2f0%26redirect_uri=x+y%23" none = .ok code :=
    except_eq_ok_of_toOption (by decide +kernel)
  have latin : ¬ TokenExchange.BeyondLatin Sample.config := by unfold TokenExchange.BeyondLatin; decide
  have called : Sample.config.callbackUrl ≠ [] := by decide
  obtain ⟨place, redirected, carried, prepared, _⟩ := token_request_is_verbatim called parsed request
  obtain rfl : place = redirect := by
    cases redirected with
    | named names => exact (Option.some.inj (Option.some.inj names.1)).symm
    | configured nameless => exact absurd ⟨rfl, by decide⟩ (nameless redirect)
  obtain ⟨⟨body, authorization⟩, form⟩ := prepared (Text.isScalar_ofString _) (Text.isScalar_ofString _) latin
  obtain ⟨octets, sent⟩ := TokenExchange.exists_octets form
  -- Only the body tells this request from the one of the sample.
  obtain ⟨_, _, ⟨⟩, _, credentials, rfl⟩ := TokenExchange.prepare_eq_ok.1 form
  obtain ⟨_, _, _, _, same, authorization⟩ :=
    TokenExchange.prepare_eq_ok.1 (Sample.prepare_form Sample.config rfl rfl)
  cases credentials.symm.trans same
  obtain ⟨target, headers, _, host, authorized, method⟩ := Http.prepare_eq_ok.1 Sample.prepare_tokenRequest
  rw [authorization] at headers host authorized
  have made : TokenExchange.request? Sample.config code redirect
      = some { Sample.tokenRequest with body := octets } :=
    TokenExchange.request?_eq_some.2
      ⟨_, _, form, Http.prepare_eq_ok.2 ⟨target, headers, sent, host, authorized, method⟩⟩
  obtain ⟨trace, runs, _⟩ := exists_runs Sample.silence
    (((ofConfig Sample.config).handle _ request none).withClient (.overHttp Sample.config .given))
  obtain ⟨posted, told⟩ := carried Text .given _ _ runs
  rw [made] at posted
  exact ⟨_, _, _, runs, posted, told _ (posted ▸ List.mem_singleton_self _)⟩

end CallbackHandler

end OidcLogin
