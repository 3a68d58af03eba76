import OidcLogin.Client.Oidc
import OidcLogin.Proofs.Http.Fetch
import OidcLogin.Proofs.Program.Trace
import OidcLogin.Proofs.Token.Reading

namespace OidcLogin

open Program

abbrev NetExchange := Exchange NetEffect.Reply

def NetEffect.isAct : NetEffect → Bool
  | .note _ => false
  | _ => true

-- Nothing but one request was sent, if that.
def AtMostOneRequest (client : HttpClient) (trace : List NetExchange) : Prop :=
  trace = [] ∨ ∃ request outcome, trace = [⟨.send client request, outcome⟩]

namespace NetProgram

variable {trace : List NetExchange}

theorem leaves_noteAll {notes : List Note} {result : Unit} :
    Leaves NetEffect.isAct (noteAll notes) trace result ↔ trace = [] := by
  induction notes with
  | nil => simp [noteAll, leaves_done]
  | cons n rest ih => exact (leaves_ignored rfl).trans ih

theorem leaves_note {n : Note} {result : Unit} :
    Leaves NetEffect.isAct (note n) trace result ↔ trace = [] := by
  change Leaves NetEffect.isAct (noteAll [n]) trace result ↔ trace = []
  exact leaves_noteAll

theorem leaves_noteAll_pure {α : Type} {notes : List Note} {value result : α} :
    Leaves NetEffect.isAct (noteAll notes >>= fun _ => pure value) trace result ↔ trace = [] ∧ result = value :=
  (leaves_silent_bind fun _ _ => leaves_noteAll).trans leaves_pure

-- What comes after a program and is told of its result besides notes.
theorem leaves_settled {α β : Type} {program : NetProgram α} {settle : α → List Note × β} {result : β} :
    Leaves NetEffect.isAct (program >>= fun value => noteAll (settle value).1 >>= fun _ =>
        pure (settle value).2) trace result
      ↔ ∃ value, Leaves NetEffect.isAct program trace value ∧ result = (settle value).2 :=
  leaves_quiet_bind fun _ _ _ => leaves_noteAll_pure

theorem runs_fetch {client : HttpClient} {method url content : Text} {headers : Http.Headers}
    {history : List NetExchange} {result : Except Http.FetchFault (Http.Response × Json)} :
    Runs (fetch client method url headers content) history result
      ↔ (∃ fault, Http.prepare method url headers content = .error fault ∧ history = [] ∧ result = .error fault)
        ∨ ∃ request outcome, Http.prepare method url headers content = .ok request
            ∧ history = [⟨.send client request, outcome⟩] ∧ result = Http.receive url request outcome := by
  unfold fetch
  cases Http.prepare method url headers content with
  | error fault => simp [runs_done]
  | ok request =>
    dsimp only
    rw [runs_ask]
    constructor
    · rintro ⟨outcome, rest, rfl, finished⟩
      obtain ⟨rfl, rfl⟩ := runs_done.1 finished
      exact .inr ⟨request, outcome, rfl, rfl, rfl⟩
    · rintro (⟨_, ⟨⟩, _⟩ | ⟨_, outcome, ⟨⟩, rfl, rfl⟩)
      exact ⟨outcome, [], rfl, .done _⟩

theorem leaves_fetch {client : HttpClient} {method url : Text} {headers : Http.Headers} {content : Text}
    {result : Except Http.FetchFault (Http.Response × Json)} :
    Leaves NetEffect.isAct (fetch client method url headers content) trace result
      ↔ (∃ fault, Http.prepare method url headers content = .error fault
            ∧ trace = [] ∧ result = .error fault)
        ∨ ∃ request outcome, Http.prepare method url headers content = .ok request
            ∧ trace = [⟨.send client request, outcome⟩] ∧ result = Http.receive url request outcome := by
  unfold fetch
  cases Http.prepare method url headers content with
  | error fault => simp [leaves_done]
  | ok request =>
    constructor
    · intro left
      obtain ⟨outcome, rest, rfl, given⟩ := (leaves_kept rfl).1 left
      obtain ⟨rfl, rfl⟩ := leaves_done.1 given
      exact .inr ⟨request, outcome, rfl, rfl, rfl⟩
    · intro sent
      rcases sent with ⟨_, impossible, _⟩ | ⟨_, outcome, same, rfl, rfl⟩
      · cases impossible
      · cases same
        exact .asked rfl (.finished _)

theorem leaves_fetch_atMostOne {client : HttpClient} {method url : Text} {headers : Http.Headers}
    {content : Text} {result : Except Http.FetchFault (Http.Response × Json)}
    (left : Leaves NetEffect.isAct (fetch client method url headers content) trace result) :
    AtMostOneRequest client trace := by
  rcases leaves_fetch.1 left with ⟨_, _, empty, _⟩ | ⟨request, outcome, _, sent, _⟩
  · exact .inl empty
  · exact .inr ⟨request, outcome, sent⟩

theorem leaves_fetch_ok {client : HttpClient} {method url : Text} {headers : Http.Headers}
    {content : Text} {response : Http.Response} {document : Json}
    (left : Leaves NetEffect.isAct (fetch client method url headers content) trace
      (.ok (response, document))) :
    ∃ request, Http.prepare method url headers content = .ok request
      ∧ trace = [⟨.send client request, .response response⟩]
      ∧ response.chunks.flatten.length ≤ Http.maxResponseBytes
      ∧ Http.decodeBody response response.chunks.flatten = .ok document := by
  rcases leaves_fetch.1 left with ⟨_, _, _, impossible⟩ | ⟨request, outcome, made, sent, received⟩
  · cases impossible
  · obtain ⟨rfl, _, _, _, small, decoded⟩ := Http.receive_eq_ok.1 received.symm
    exact ⟨request, made, sent, small, decoded⟩

end NetProgram

namespace TokenExchange

theorem prepare_eq_of_application {config other : ProviderConfig} (sameId : config.clientId = other.clientId)
    (sameSecret : config.clientSecret = other.clientSecret) (code redirectUri : Option Text) :
    prepare config code redirectUri = prepare other code redirectUri := by
  unfold prepare credentials
  rw [sameId, sameSecret]

theorem prepare_eq_ok {config : ProviderConfig} {code redirectUri : Option Text} {body authorization : Text} :
    prepare config code redirectUri = .ok (body, authorization)
      ↔ ∃ given octets, code = some given ∧ Form.encode (formPairs given redirectUri) = .ok body
          ∧ credentials config = .ok octets ∧ authorization = Http.basicAuthorization octets := by
  unfold prepare
  cases code with
  | none => simp
  | some given =>
    dsimp only
    cases written : Form.encode (formPairs given redirectUri) with
    | error fault => simp [written]
    | ok form =>
      cases credentials config with
      | error fault => simp
      | ok octets => simp [written, eq_comm]

theorem ofPayload_eq_ok {payload : Members} {token : TokenResponse} :
    ofPayload payload = .ok token ↔ TokenResponse.read payload = .ok token ∧ token.isBearer = true := by
  unfold ofPayload
  split
  · rename_i report refused
    constructor
    · intro impossible
      cases impossible
    · intro given
      rw [Checked.toExcept_eq_ok.2 given.1] at refused
      cases refused
  · rename_i read accepted
    rw [Checked.toExcept_eq_ok.1 accepted]
    by_cases bearer : read.isBearer
    · rw [if_pos bearer]
      constructor
      · intro same
        cases same
        exact ⟨rfl, bearer⟩
      · intro given
        cases given.1
        rfl
    · rw [if_neg bearer]
      constructor
      · intro impossible
        cases impossible
      · intro given
        cases given.1
        exact absurd given.2 bearer

theorem ofResponse_eq_ok {response : Http.Response} {document : Json} {token : TokenResponse} :
    (ofResponse response document).2 = .ok token
      ↔ response.isSuccess = true ∧ ∃ payload, document = .object payload
          ∧ Members.has payload "error" = false ∧ ofPayload payload = .ok token := by
  cases success : response.isSuccess with
  | false => simp [ofResponse, success]
  | true =>
    cases document with
    | object payload =>
      cases refused : Members.has payload "error" with
      | true => simp [ofResponse, success, refused]
      | false => simp [ofResponse, success, refused]
    | null | bool _ | int _ | float _ | text _ | list _ => simp [ofResponse, success, Members.has]

theorem ofFetch_ok {endpoint : Text} {response : Http.Response} {document : Json} :
    (ofFetch endpoint (.ok (response, document))).2
      = (ofResponse response document).2.mapError (.token ·) := by
  cases given : ofResponse response document with
  | mk notes result =>
    cases result with
    | error fault => simp only [ofFetch, given]; rfl
    | ok value => simp only [ofFetch, given]; rfl

theorem ofFetch_ok_notes {endpoint : Text} {response : Http.Response} {document : Json} :
    (ofFetch endpoint (.ok (response, document))).1 = (ofResponse response document).1 := by
  cases given : ofResponse response document with
  | mk notes result =>
    cases result with
    | error fault => simp only [ofFetch, given]
    | ok value => simp only [ofFetch, given]

theorem ofFetch_eq_ok {endpoint : Text} {fetched : Except Http.FetchFault (Http.Response × Json)}
    {token : TokenResponse} :
    (ofFetch endpoint fetched).2 = .ok token
      ↔ ∃ response document, fetched = .ok (response, document)
          ∧ (ofResponse response document).2 = .ok token := by
  cases fetched with
  | error fault =>
    by_cases network : fault.isNetwork
    · simp [ofFetch, network]
    · by_cases value : fault.isValue
      · simp [ofFetch, network, value]
      · simp [ofFetch, network, value]
  | ok answer =>
    obtain ⟨response, document⟩ := answer
    rw [ofFetch_ok, except_mapError_eq_ok]
    constructor
    · intro accepted
      exact ⟨response, document, rfl, accepted⟩
    · intro found
      obtain ⟨_, _, same, accepted⟩ := found
      cases same
      exact accepted

theorem leaves_exchange {config : ProviderConfig} {client : HttpClient} {code redirectUri : Option Text}
    {trace : List NetExchange} {result : Except Failure TokenResponse} :
    Leaves NetEffect.isAct (exchange config client code redirectUri) trace result
      ↔ (∃ failure, prepare config code redirectUri = .error failure
            ∧ trace = [] ∧ result = .error failure)
        ∨ ∃ body authorization fetched, prepare config code redirectUri = .ok (body, authorization)
            ∧ Leaves NetEffect.isAct (NetProgram.fetch client "POST" config.tokenEndpoint
                (formHeaders authorization) body) trace fetched
            ∧ result = (ofFetch config.tokenEndpoint fetched).2 := by
  unfold exchange
  cases prepare config code redirectUri with
  | error failure => simp [leaves_done]
  | ok form =>
    obtain ⟨body, authorization⟩ := form
    constructor
    · intro left
      obtain ⟨fetched, sent, rfl⟩ := NetProgram.leaves_settled.1 left
      exact .inr ⟨body, authorization, fetched, rfl, sent, rfl⟩
    · intro given
      rcases given with ⟨_, impossible, _⟩ | ⟨_, _, fetched, same, sent, rfl⟩
      · cases impossible
      · cases same
        exact NetProgram.leaves_settled.2 ⟨fetched, sent, rfl⟩

theorem leaves_exchange_atMostOne {config : ProviderConfig} {client : HttpClient}
    {code redirectUri : Option Text} {trace : List NetExchange} {result : Except Failure TokenResponse}
    (left : Leaves NetEffect.isAct (exchange config client code redirectUri) trace result) :
    AtMostOneRequest client trace := by
  rcases leaves_exchange.1 left with ⟨_, _, empty, _⟩ | ⟨_, _, _, _, sent, _⟩
  · exact .inl empty
  · exact NetProgram.leaves_fetch_atMostOne sent

-- The request posts the code, and the response grants the token.
structure Grants (config : ProviderConfig) (code redirectUri : Option Text) (request : Http.Request)
    (response : Http.Response) (token : TokenResponse) : Prop where
  posted : ∃ body authorization, prepare config code redirectUri = .ok (body, authorization)
    ∧ Http.prepare "POST" config.tokenEndpoint (formHeaders authorization) body = .ok request
  success : 200 ≤ response.status ∧ response.status ≤ 299
  small : response.chunks.flatten.length ≤ 1000000
  document : ∃ payload, Json.ofBytes response.levels response.chunks.flatten = .ok (.object payload)
    ∧ Members.has payload "error" = false ∧ TokenResponse.read payload = .ok token
  accessToken : token.accessToken ≠ []
  bearer : token.tokenType.lower = "bearer"

theorem leaves_exchange_ok {config : ProviderConfig} {client : HttpClient}
    {code redirectUri : Option Text} {trace : List NetExchange} {token : TokenResponse}
    (left : Leaves NetEffect.isAct (exchange config client code redirectUri) trace (.ok token)) :
    ∃ request response, trace = [⟨.send client request, .response response⟩]
      ∧ Grants config code redirectUri request response token := by
  rcases leaves_exchange.1 left with ⟨_, _, _, impossible⟩ | ⟨body, authorization, fetched, form, sent, same⟩
  · cases impossible
  · obtain ⟨response, document, rfl, accepted⟩ := ofFetch_eq_ok.1 same.symm
    obtain ⟨success, payload, rfl, noError, valid⟩ := ofResponse_eq_ok.1 accepted
    obtain ⟨request, made, rfl, small, decoded⟩ := NetProgram.leaves_fetch_ok sent
    obtain ⟨read, bearer⟩ := ofPayload_eq_ok.1 valid
    refine ⟨request, response, rfl, ⟨body, authorization, form, made⟩, Http.isSuccess_iff.1 success, small,
      ⟨payload, (Http.decodeBody_of_isSuccess success).1 decoded, noError, read⟩, ?_, ?_⟩
    · exact (TokenResponse.read_eq_ok.1 read).1.full
    · exact of_decide_eq_true bearer

end TokenExchange

namespace UserInfo

theorem ofResponse_eq_ok {response : Http.Response} {document : Json} {claims : Members} :
    (ofResponse response document).2 = .ok claims
      ↔ response.isSuccess = true ∧ document = .object claims := by
  cases success : response.isSuccess with
  | false => simp [ofResponse, success]
  | true => cases document <;> simp [ofResponse, success]

theorem ofFetch_ok {endpoint : Text} {response : Http.Response} {document : Json} :
    (ofFetch endpoint (.ok (response, document))).2
      = (ofResponse response document).2.mapError (.userInfo ·) := by
  cases given : ofResponse response document with
  | mk notes result =>
    cases result with
    | error fault => simp only [ofFetch, given]; rfl
    | ok value => simp only [ofFetch, given]; rfl

theorem ofFetch_ok_notes {endpoint : Text} {response : Http.Response} {document : Json} :
    (ofFetch endpoint (.ok (response, document))).1 = (ofResponse response document).1 := by
  cases given : ofResponse response document with
  | mk notes result =>
    cases result with
    | error fault => simp only [ofFetch, given]
    | ok value => simp only [ofFetch, given]

theorem ofFetch_eq_ok {endpoint : Text} {fetched : Except Http.FetchFault (Http.Response × Json)}
    {claims : Members} :
    (ofFetch endpoint fetched).2 = .ok claims
      ↔ ∃ response document, fetched = .ok (response, document)
          ∧ (ofResponse response document).2 = .ok claims := by
  cases fetched with
  | error fault =>
    by_cases network : fault.isNetwork
    · simp [ofFetch, network]
    · by_cases value : fault.isValue
      · simp [ofFetch, network, value]
      · simp [ofFetch, network, value]
  | ok answer =>
    obtain ⟨response, document⟩ := answer
    rw [ofFetch_ok, except_mapError_eq_ok]
    constructor
    · intro accepted
      exact ⟨response, document, rfl, accepted⟩
    · intro found
      obtain ⟨_, _, same, accepted⟩ := found
      cases same
      exact accepted

theorem leaves_fetch {config : ProviderConfig} {client : HttpClient} {accessToken : Text}
    {trace : List NetExchange} {result : Except Failure Members} :
    Leaves NetEffect.isAct (fetch config client accessToken) trace result
      ↔ ∃ fetched, Leaves NetEffect.isAct
          (NetProgram.fetch client "GET" config.userinfoEndpoint (headers accessToken) []) trace fetched
          ∧ result = (ofFetch config.userinfoEndpoint fetched).2 :=
  NetProgram.leaves_settled

theorem leaves_fetch_atMostOne {config : ProviderConfig} {client : HttpClient} {accessToken : Text}
    {trace : List NetExchange} {result : Except Failure Members}
    (left : Leaves NetEffect.isAct (fetch config client accessToken) trace result) :
    AtMostOneRequest client trace := by
  obtain ⟨_, sent, _⟩ := leaves_fetch.1 left
  exact NetProgram.leaves_fetch_atMostOne sent

-- The request asks with the access token, and the response gives the claims.
structure Gives (config : ProviderConfig) (accessToken : Text) (request : Http.Request)
    (response : Http.Response) (claims : Members) : Prop where
  asked : Http.prepare "GET" config.userinfoEndpoint (headers accessToken) [] = .ok request
  success : 200 ≤ response.status ∧ response.status ≤ 299
  small : response.chunks.flatten.length ≤ 1000000
  document : Json.ofBytes response.levels response.chunks.flatten = .ok (.object claims)

theorem leaves_fetch_ok {config : ProviderConfig} {client : HttpClient} {accessToken : Text}
    {trace : List NetExchange} {claims : Members}
    (left : Leaves NetEffect.isAct (fetch config client accessToken) trace (.ok claims)) :
    ∃ request response, trace = [⟨.send client request, .response response⟩]
      ∧ Gives config accessToken request response claims := by
  obtain ⟨fetched, sent, same⟩ := leaves_fetch.1 left
  obtain ⟨response, document, rfl, accepted⟩ := ofFetch_eq_ok.1 same.symm
  obtain ⟨success, rfl⟩ := ofResponse_eq_ok.1 accepted
  obtain ⟨request, made, rfl, small, decoded⟩ := NetProgram.leaves_fetch_ok sent
  exact ⟨request, response, rfl, made, Http.isSuccess_iff.1 success, small,
    (Http.decodeBody_of_isSuccess success).1 decoded⟩

end UserInfo

namespace Sample

def config : ProviderConfig where
  force := false
  clientId := "cid"
  clientSecret := "secret"
  callbackUrl := "https://app.example.com/cb"
  authorizationEndpoint := "https://idp.example.com/authorize"
  tokenEndpoint := "https://idp.example.com/token"
  userinfoEndpoint := "https://idp.example.com/userinfo"
  baseUrl := "https://app.example.com"
  adminGroup := some "admins"
  allowGroup := some "staff"
  groupsClaimName := "groups"
  issuer := none
  httpTimeout := ProviderConfig.defaultTimeout
  restrictPrivateNetworks := false

def octets (s : String) : Bytes := s.toList.map fun c => UInt8.ofNat c.toNat

theorem octets_ofList (characters : List Char) :
    octets (.ofList characters) = characters.map fun c => UInt8.ofNat c.toNat := by
  simp [octets]

-- An answer, read where documents may be a hundred levels deep.
def answered (status : Int) (headers : Http.Headers) (chunks : List Bytes) : Http.Response :=
  ⟨⟨status, headers, chunks⟩, 100⟩

def authorization : Text := "Basic Y2lkOnNlY3JldA=="

def form : Text :=
  "grant_type=authorization_code&redirect_uri=https%3A%2F%2Fapp.example.com%2Fcb&code=abc"

def tokenRequest : Http.Request where
  method := "POST"
  url := ⟨"https", [], "idp.example.com", none, "/token", none, none⟩
  headers := TokenExchange.formHeaders authorization
  body := form.map fun c => UInt8.ofNat c.val

theorem prepare_form (other : ProviderConfig) (clientId : other.clientId = "cid")
    (clientSecret : other.clientSecret = "secret") :
    TokenExchange.prepare other (some "abc") (some config.callbackUrl) = .ok (form, authorization) := by
  rw [TokenExchange.prepare_eq_of_application (clientId.trans rfl : other.clientId = config.clientId)
    (clientSecret.trans rfl)]
  unfold config form authorization
  repeat rw [Text.ofString_ofList]
  exact except_eq_ok_of_toOption (by decide +kernel)

theorem prepare_tokenRequest :
    Http.prepare "POST" "https://idp.example.com/token" (TokenExchange.formHeaders authorization) form
      = .ok tokenRequest := by
  unfold tokenRequest TokenExchange.formHeaders authorization form
  repeat rw [Text.ofString_ofList]
  exact except_eq_ok_of_toOption (by decide +kernel)

def tokenResponse : Http.Response :=
  answered 200 [] [octets "\x7b\"access_token\":\"at\",\"token_type\":\"Bearer\"\x7d"]

def token : TokenResponse := ⟨"at", "Bearer", none, none, none, none⟩

def claimsRequest : Http.Request where
  method := "GET"
  url := ⟨"https", [], "idp.example.com", none, "/userinfo", none, none⟩
  headers := UserInfo.headers "at"
  body := []

def claimsResponse : Http.Response :=
  answered 200 [] [octets "\x7b\"email\":\"a@b.c\",\"name\":\" Al \",\"groups\":[\"staff\",null]\x7d"]

end Sample

end OidcLogin
