import OidcLogin.Proofs.Client.Notes
import OidcLogin.Proofs.Http.Bounded
import OidcLogin.Proofs.Http.Faults
import OidcLogin.Proofs.HostName.Ascii

namespace OidcLogin

open Program

namespace Http

variable {url : Text} {request : Request} {response : Response} {headers : Headers} {fault : FetchFault}
  {given : Text} {size : Nat}

-- A declared length that is written in digit characters and cannot be read as a number.
inductive UnreadableLength (headers : Headers) : Prop
  | other {given : Text} (named : headers.get? "Content-Length" = some given)
      (digits : ∀ c ∈ given, c.isDigitCharacter = true) (undecimal : ∃ c ∈ given, c.decimalValue? = none)
  | long {given : Text} {size : Nat} (named : headers.get? "Content-Length" = some given)
      (read : given.decimal? = some size) (long : 4300 < given.length)

-- The ways in which a response is turned into a fault of a value.  The last one is the one that is meant.
inductive FailsByValue (request : Request) (response : Response) : Prop
  | place {fault : FetchFault} (unread : checkAbsolute request.url = .error fault)
  | astray {fault : FetchFault} (absolute : checkAbsolute request.url = .ok ())
      (led : checkRedirect request.url response = .error fault) (isValue : fault.isValue = true)
  | length (delivered : Delivered request response) (unreadable : UnreadableLength response.headers)
  | body {declared : Option Nat} {fault : DocumentFault} (delivered : Delivered request response)
      (declares : Declares response.headers declared) (small : ¬ IsOversized declared response.chunks)
      (success : 200 ≤ response.status ∧ response.status ≤ 299)
      (read : Json.ofBytes response.levels response.chunks.flatten = .error fault)
      (isValue : (FetchFault.document fault).isValue = true)

structure Legible (request : Request) (response : Response) : Prop where
  delivered : Delivered request response
  small : ∃ declared, Declares response.headers declared ∧ ¬ IsOversized declared response.chunks
  shallow : ∀ inList, Json.ofBytes response.levels response.chunks.flatten ≠ .error (.tooDeep inList)

-- What the body of a response holds; it counts as null if it is no document.
def Response.value (response : Response) : Json :=
  match Json.ofBytes response.levels response.chunks.flatten with
  | .ok document => document
  | .error _ => .null

theorem declares_or_unreadable (headers : Headers) :
    (∃ declared, Declares headers declared) ∨ UnreadableLength headers := by
  cases named : headers.get? "Content-Length" with
  | none => exact .inl ⟨none, .absent named⟩
  | some given =>
    by_cases full : given = []
    · exact .inl ⟨none, .other named (.inl full)⟩
    · by_cases digits : ∀ c ∈ given, c.isDigitCharacter = true
      · cases read : given.decimal? with
        | none => exact .inr (.other named digits (Text.decimal?_eq_none read))
        | some size =>
          by_cases short : given.length ≤ 4300
          · exact .inl ⟨some size, .digits named full read short⟩
          · exact .inr (.long named read (Nat.lt_of_not_le short))
      · simp only [not_forall] at digits
        obtain ⟨c, member, other⟩ := digits
        exact .inl ⟨none, .other named (.inr ⟨c, member, Bool.eq_false_iff.2 other⟩)⟩

theorem checkDeclaredLength_of_digits (named : headers.get? "Content-Length" = some given)
    (full : given ≠ []) (digits : ∀ c ∈ given, c.isDigitCharacter = true) {unread : Text.NumeralFault}
    (refused : given.toWhole? = .error unread) (url : Text) :
    ∃ fault, checkDeclaredLength url headers = .error fault ∧ fault.isValue = true := by
  have counted : (given.isEmpty || !given.all CodePoint.isDigitCharacter) = false := by
    rw [List.all_eq_true.2 digits, List.isEmpty_eq_false_iff.2 full]
    rfl
  unfold checkDeclaredLength
  rw [named]
  dsimp only
  rw [counted, if_neg Bool.false_ne_true, refused]
  cases unread with
  | malformed => exact ⟨_, rfl, rfl⟩
  | tooManyDigits count => exact ⟨_, rfl, rfl⟩

theorem checkDeclaredLength_of_unreadable (unreadable : UnreadableLength headers) (url : Text) :
    ∃ fault, checkDeclaredLength url headers = .error fault ∧ fault.isValue = true := by
  cases unreadable with
  | other named digits undecimal =>
    obtain ⟨unread, refused⟩ := Text.toWhole?_of_other_digit digits undecimal
    obtain ⟨c, member, _⟩ := undecimal
    exact checkDeclaredLength_of_digits named (List.ne_nil_of_mem member) digits refused url
  | @long given size named read long =>
    have full : given ≠ [] := List.ne_nil_of_length_pos (by omega)
    exact checkDeclaredLength_of_digits named full (Text.isDigitCharacter_of_decimal? read)
      (Text.toWhole?_of_long_decimal? read long) url

theorem receive_of_unreadable (delivered : Delivered request response) (unreadable : UnreadableLength response.headers)
    (url : Text) : ∃ fault, receive url request (.response response) = .error fault ∧ fault.isValue = true := by
  obtain ⟨fault, refused, isValue⟩ := checkDeclaredLength_of_unreadable unreadable url
  refine ⟨fault, ?_, isValue⟩
  rw [receive_of_delivered delivered, refused]
  rfl

theorem isValue_of_checkAbsolute (unread : checkAbsolute request.url = .error fault) : fault.isValue = true := by
  unfold checkAbsolute at unread
  split at unread
  · cases unread
    rfl
  · split at unread
    · cases unread
    · cases unread
      rfl

theorem receive_of_place (unread : checkAbsolute request.url = .error fault) (url : Text) :
    receive url request (.response response) = .error fault := by
  unfold receive
  dsimp only
  rw [unread]
  rfl

theorem receive_of_astray (absolute : checkAbsolute request.url = .ok ())
    (led : checkRedirect request.url response = .error fault) (url : Text) :
    receive url request (.response response) = .error fault := by
  unfold receive
  dsimp only
  rw [absolute, led]
  rfl

theorem Reads.isValue_iff {declared : Option Nat} {result : Except FetchFault (Response × Json)}
    (reads : Reads url response declared result) :
    (∃ fault, result = .error fault ∧ fault.isValue = true)
      ↔ ¬ IsOversized declared response.chunks ∧ (200 ≤ response.status ∧ response.status ≤ 299)
        ∧ ∃ fault, Json.ofBytes response.levels response.chunks.flatten = .error fault
          ∧ (FetchFault.document fault).isValue = true := by
  cases reads with
  | oversized large => simp [large, FetchFault.isValue, FetchFault.kind, Kind.isA, Kind.above, Kind.parent?]
  | value small read => simp [read]
  | @undecodable fault small read isValue success =>
    exact ⟨fun _ => ⟨small, success, fault, read, isValue⟩, fun _ => ⟨_, rfl, isValue⟩⟩
  | nothing small read isValue failed => simp [failed]
  | @passed fault small read other =>
    constructor
    · rintro ⟨_, ⟨⟩, isValue⟩
      cases isValue.symm.trans other
    · rintro ⟨_, _, _, again, isValue⟩
      cases read.symm.trans again
      cases isValue.symm.trans other

theorem failsByValue_iff (url : Text) :
    (∃ fault, receive url request (.response response) = .error fault ∧ fault.isValue = true)
      ↔ FailsByValue request response := by
  constructor
  · rintro ⟨fault, received, isValue⟩
    cases absolute : checkAbsolute request.url with
    | error unread => exact .place absolute
    | ok _ =>
      cases led : checkRedirect request.url response with
      | error astray =>
        cases (receive_of_astray absolute led url).symm.trans received
        exact .astray absolute led isValue
      | ok _ =>
        have delivered : Delivered request response := ⟨absolute, led⟩
        rcases declares_or_unreadable response.headers with ⟨declared, declares⟩ | unreadable
        · have reads := (receive_exact delivered declares).1 received
          obtain ⟨small, success, unread, read, document⟩ := reads.isValue_iff.1 ⟨fault, rfl, isValue⟩
          exact .body delivered declares small success read document
        · exact .length delivered unreadable
  · intro fails
    cases fails with
    | place unread => exact ⟨_, receive_of_place unread url, isValue_of_checkAbsolute unread⟩
    | astray absolute led isValue => exact ⟨_, receive_of_astray absolute led url, isValue⟩
    | length delivered unreadable => exact receive_of_unreadable delivered unreadable url
    | body delivered declares small success read isValue =>
      have reads : Reads url response _ _ := (receive_exact delivered declares).1 rfl
      exact reads.isValue_iff.2 ⟨small, success, _, read, isValue⟩

theorem oversized_iff_of_decimal (delivered : Delivered request response)
    (named : response.headers.get? "Content-Length" = some given) (read : given.decimal? = some size)
    (large : 1000000 < size) (url : Text) :
    receive url request (.response response) = .error (.oversized url) ↔ given.length ≤ 4300 := by
  have full : given ≠ [] := by
    rintro rfl
    cases read
    omega
  constructor
  · intro received
    by_contra long
    obtain ⟨fault, again, isValue⟩ := receive_of_unreadable delivered (.long named read (Nat.lt_of_not_le long)) url
    cases again.symm.trans received
    cases isValue
  · intro short
    exact receive_of_isOversized delivered (.digits named full read short) url (.inl ⟨size, rfl, large⟩)

theorem eq_value_of_receive {document : Json} (failed : response.isSuccess = false)
    (received : receive url request (.response response) = .ok (response, document)) : document = response.value := by
  obtain ⟨_, _, _, _, _, decoded⟩ := receive_eq_ok.1 received
  unfold decodeBody at decoded
  unfold Response.value
  cases read : Json.ofBytes response.levels response.chunks.flatten with
  | ok given =>
    rw [read] at decoded
    cases decoded
    rfl
  | error fault =>
    rw [read] at decoded
    cases fault with
    | tooDeep inList => cases decoded
    | _ =>
      dsimp only at decoded
      rw [failed, if_neg Bool.false_ne_true] at decoded
      cases decoded
      rfl

theorem legible_iff (failed : response.isSuccess = false) (url : Text) :
    (∃ document, receive url request (.response response) = .ok (response, document)) ↔ Legible request response := by
  have unsuccessful : ¬ (200 ≤ response.status ∧ response.status ≤ 299) := fun within =>
    Bool.false_ne_true (failed.symm.trans (isSuccess_iff.2 within))
  constructor
  · rintro ⟨document, received⟩
    obtain ⟨_, absolute, settled, _⟩ := receive_eq_ok.1 received
    have delivered : Delivered request response := ⟨absolute, settled⟩
    rcases declares_or_unreadable response.headers with ⟨declared, declares⟩ | unreadable
    · cases (receive_exact delivered declares).1 received with
      | value small read => exact ⟨delivered, ⟨declared, declares, small⟩, fun _ deep => by cases read.symm.trans deep⟩
      | nothing small read isValue _ =>
        refine ⟨delivered, ⟨declared, declares, small⟩, fun inList deep => ?_⟩
        cases read.symm.trans deep
        cases isValue
    · obtain ⟨_, refused, _⟩ := receive_of_unreadable delivered unreadable url
      cases refused.symm.trans received
  · rintro ⟨delivered, ⟨declared, declares, small⟩, shallow⟩
    cases read : Json.ofBytes response.levels response.chunks.flatten with
    | ok document => exact ⟨document, (receive_exact delivered declares).2 (.value small read)⟩
    | error fault =>
      have isValue : (FetchFault.document fault).kind.isA .value = true := by
        cases fault with
        | tooDeep inList => exact absurd read (shallow inList)
        | _ => rfl
      exact ⟨.null, (receive_exact delivered declares).2 (.nothing small read isValue unsuccessful)⟩

end Http

-- What a fetch tells of a response that it got.
structure NetProgram.Reports (url : Text) (request : Http.Request) (response : Http.Response)
    (result : Except Http.FetchFault (Http.Response × Json)) : Prop where
  value : (∃ fault, result = .error fault ∧ fault.isValue = true) ↔ Http.FailsByValue request response
  oversized : Http.Delivered request response → ∀ (given : Text) (size : Nat),
    response.headers.get? "Content-Length" = some given → given.decimal? = some size → 1000000 < size →
    (result = .error (.oversized url) ↔ given.length ≤ 4300)

-- How an operation reports a response that is none of success: as a rejection, or as an answer that cannot be read.
structure Reports {α : Type} (rejection : Http.Response → List Note × Except Failure α)
    (unreadable : Http.FetchFault → Failure) (request : Http.Request) (response : Http.Response)
    (told : List Note × Except Failure α) : Prop where
  rejected : told = rejection response ↔ Http.Legible request response
  invalid : (∃ fault, told.2 = .error (unreadable fault)) ↔ Http.FailsByValue request response

structure Rejects {α : Type} (rejection : Http.Response → List Note × Except Failure α)
    (unreadable : Http.FetchFault → Failure)
    (settle : Except Http.FetchFault (Http.Response × Json) → List Note × Except Failure α) : Prop where
  invalid : ∀ fault, (∃ given, (settle (.error fault)).2 = .error (unreadable given)) ↔ fault.isValue = true
  unrejected : ∀ fault response, settle (.error fault) ≠ rejection response
  rejected : ∀ response, response.isSuccess = false → settle (.ok (response, response.value)) = rejection response
  readable : ∀ response given, (rejection response).2 ≠ .error (unreadable given)

def TokenExchange.payloadOf : Json → Members
  | .object members => members
  | _ => []

def TokenExchange.rejection (response : Http.Response) : List Note × Except Failure TokenResponse :=
  ([.warning ("Token endpoint rejected the authorization code: " ++ refusalText response (payloadOf response.value))],
    .error (.token (.rejected (descriptionOf (payloadOf response.value)))))

def UserInfo.rejection (response : Http.Response) : List Note × Except Failure Members :=
  ([.warning ("User info endpoint returned HTTP " ++ Text.ofInt response.status)], .error (.userInfo .rejected))

theorem Http.FetchFault.sorts (fault : Http.FetchFault) :
    (fault.isNetwork = true ∧ fault.isValue = false) ∨ (fault.isNetwork = false ∧ fault.isValue = true)
      ∨ (fault.isNetwork = false ∧ fault.isValue = false) := by
  unfold Http.FetchFault.isNetwork Http.FetchFault.isValue
  generalize fault.kind = kind
  cases kind with
  | network name => exact .inl ⟨rfl, rfl⟩
  | _ => decide

section Reports

variable {client : HttpClient} {request : Http.Request} {response : Http.Response} {history : List NetExchange}

theorem NetProgram.reports_of_runs {method url content : Text} {headers : Http.Headers}
    {result : Except Http.FetchFault (Http.Response × Json)}
    (runs : Runs (fetch client method url headers content) (⟨.send client request, .response response⟩ :: history)
      result) : Reports url request response result := by
  rcases runs_fetch.1 runs with ⟨_, _, ⟨⟩, _⟩ | ⟨_, _, _, ⟨⟩, rfl⟩
  exact ⟨Http.failsByValue_iff url, fun delivered given size named read large =>
    Http.oversized_iff_of_decimal delivered named read large url⟩

theorem Rejects.reports {α : Type} {rejection : Http.Response → List Note × Except Failure α}
    {unreadable : Http.FetchFault → Failure}
    {settle : Except Http.FetchFault (Http.Response × Json) → List Note × Except Failure α}
    (rejects : Rejects rejection unreadable settle) (failed : response.isSuccess = false) (url : Text) :
    Reports rejection unreadable request response (settle (Http.receive url request (.response response))) := by
  have legible : _ ↔ Http.Legible request response := Http.legible_iff failed url
  have fails : _ ↔ Http.FailsByValue request response := Http.failsByValue_iff url
  cases received : Http.receive url request (.response response) with
  | error fault =>
    rw [received] at legible fails
    constructor
    case rejected =>
      refine ⟨fun told => absurd told (rejects.unrejected fault response), fun legibly => ?_⟩
      obtain ⟨_, impossible⟩ := legible.2 legibly
      cases impossible
    case invalid =>
      rw [rejects.invalid, ← fails]
      exact ⟨fun isValue => ⟨fault, rfl, isValue⟩, fun ⟨_, same, isValue⟩ => by cases same; exact isValue⟩
  | ok answer =>
    obtain ⟨answered, document⟩ := answer
    cases (Http.receive_eq_ok.1 received).1
    cases Http.eq_value_of_receive failed received
    rw [received] at legible fails
    have told := rejects.rejected response failed
    constructor
    case rejected => exact ⟨fun _ => legible.1 ⟨_, rfl⟩, fun _ => told⟩
    case invalid =>
      rw [told]
      refine ⟨fun ⟨fault, same⟩ => absurd same (rejects.readable response fault), fun failing => ?_⟩
      obtain ⟨_, impossible, _⟩ := fails.2 failing
      cases impossible

theorem TokenExchange.rejects (endpoint : Text) :
    Rejects rejection (fun fault => .token (.unreadable fault)) (ofFetch endpoint) := by
  constructor
  case invalid =>
    intro fault
    rcases fault.sorts with sort | sort | sort
    all_goals simp [ofFetch, sort]
  case unrejected =>
    intro fault response told
    rcases fault.sorts with sort | sort | sort
    all_goals simp [ofFetch, rejection, sort] at told
  case rejected =>
    intro response failed
    unfold rejection
    cases response.value with
    | _ => simp [ofFetch, ofResponse, payloadOf, failed]
  case readable => exact fun response given impossible => by cases impossible

theorem UserInfo.rejects (endpoint : Text) :
    Rejects rejection (fun fault => .userInfo (.unreadable fault)) (ofFetch endpoint) := by
  constructor
  case invalid =>
    intro fault
    rcases fault.sorts with sort | sort | sort
    all_goals simp [ofFetch, sort]
  case unrejected =>
    intro fault response told
    rcases fault.sorts with sort | sort | sort
    all_goals simp [ofFetch, rejection, sort] at told
  case rejected =>
    intro response failed
    simp [rejection, ofFetch, ofResponse, failed]
  case readable => exact fun response given impossible => by cases impossible

theorem TokenExchange.reports_of_runs {config : ProviderConfig} {code redirectUri : Option Text}
    {result : Except Failure TokenResponse} (failed : response.isSuccess = false)
    (runs : Runs (exchange config client code redirectUri) (⟨.send client request, .response response⟩ :: history)
      result) :
    Reports rejection (fun fault => .token (.unreadable fault)) request response (notesOf history, result) := by
  unfold exchange at runs
  split at runs
  · cases runs
  · obtain ⟨rfl, rfl⟩ := NetProgram.runs_answered runs
    rw [notesOf_noting]
    exact (rejects config.tokenEndpoint).reports failed config.tokenEndpoint

theorem UserInfo.reports_of_runs {config : ProviderConfig} {accessToken : Text} {result : Except Failure Members}
    (failed : response.isSuccess = false)
    (runs : Runs (fetch config client accessToken) (⟨.send client request, .response response⟩ :: history) result) :
    Reports rejection (fun fault => .userInfo (.unreadable fault)) request response (notesOf history, result) := by
  obtain ⟨rfl, rfl⟩ := NetProgram.runs_answered runs
  rw [notesOf_noting]
  exact (rejects config.userinfoEndpoint).reports failed config.userinfoEndpoint

-- Whatever request got the response: when a fetch fails with a fault of a value, and how that is reported.
theorem value_faults_exactly (client : HttpClient) (request : Http.Request) (response : Http.Response) :
    (∀ (method url content : Text) (headers : Http.Headers) (history : List NetExchange)
        (result : Except Http.FetchFault (Http.Response × Json)),
        Runs (NetProgram.fetch client method url headers content)
          (⟨.send client request, .response response⟩ :: history) result →
        NetProgram.Reports url request response result)
      ∧ (∀ (config : ProviderConfig) (code redirectUri : Option Text) (history : List NetExchange)
          (result : Except Failure TokenResponse), response.isSuccess = false →
          Runs (TokenExchange.exchange config client code redirectUri)
            (⟨.send client request, .response response⟩ :: history) result →
          Reports TokenExchange.rejection (fun fault => .token (.unreadable fault)) request response
            (notesOf history, result))
      ∧ ∀ (config : ProviderConfig) (accessToken : Text) (history : List NetExchange)
          (result : Except Failure Members), response.isSuccess = false →
          Runs (UserInfo.fetch config client accessToken)
            (⟨.send client request, .response response⟩ :: history) result →
          Reports UserInfo.rejection (fun fault => .userInfo (.unreadable fault)) request response
            (notesOf history, result) :=
  ⟨fun _ _ _ _ _ _ => NetProgram.reports_of_runs, fun _ _ _ _ _ => TokenExchange.reports_of_runs,
    fun _ _ _ _ => UserInfo.reports_of_runs⟩

end Reports

namespace Sample

def rejection (headers : Http.Headers) : Http.Response := answered 400 headers [octets "\x7b\x7d"]

def abroadResponse : Http.Response := answered 302 [("Location", "https://xn--a/")] [octets "\x7b\x7d"]

def abroad : RequestUrl := ⟨"https", [], "xn--a", none, "/", none, none⟩

def abroadFault : HostNameFault := .codePoint (CodePoint.ofNat 0x80) 1 [CodePoint.ofNat 0x80]

theorem toLetters_abroad : HostName.toLetters abroad.host = .error abroadFault := by
  have number : Punycode.readNumber? 72 36 1 0 "a" = some (0, []) := by decide +kernel
  have decoded : Punycode.decode? "a" = some [CodePoint.ofNat 0x80] :=
    Punycode.insertions?_of_number number (by decide)
  have marked : abroad.host.lower = HostName.asciiMark ++ "a" := by decide +kernel
  exact HostName.toLetters_of_label (by decide) (by decide) (by decide +kernel)
    (HostName.labelLetters_of_code marked (by decide) (by decide) decoded (by decide +kernel))

theorem checkRedirect_abroadResponse :
    Http.checkRedirect claimsRequest.url abroadResponse = .error (.hostName abroadFault) := by
  have read : RequestUrl.read "https://xn--a/" = .ok abroad := except_eq_ok_of_toOption (by decide +kernel)
  have located : Http.Redirect.location? abroadResponse = some (Text.ofString "https://xn--a/") := by decide +kernel
  have unnamed : Http.hostOf abroad = .error (.hostName abroadFault) :=
    congrArg (Except.mapError Http.FetchFault.hostName) toLetters_abroad
  have led : Http.Redirect.withHost claimsRequest.url abroad = .error (.hostName abroadFault) := by
    unfold Http.Redirect.withHost
    rw [if_neg (by decide), unnamed]
  have refused : Http.Redirect.target claimsRequest.url "https://xn--a/" = .error (.hostName abroadFault) := by
    unfold Http.Redirect.target
    rw [read]
    change (Http.Redirect.withHost claimsRequest.url abroad >>= _ : Except _ _) = _
    rw [led]
    rfl
  unfold Http.checkRedirect
  rw [located]
  dsimp only
  rw [refused]

theorem delivered_rejection {request : Http.Request} (absolute : Http.checkAbsolute request.url = .ok ())
    (headers : Http.Headers) : Http.Delivered request (rejection headers) := ⟨absolute, rfl⟩

theorem legible_rejection {request : Http.Request} (absolute : Http.checkAbsolute request.url = .ok ()) :
    Http.Legible request (rejection []) where
  delivered := delivered_rejection absolute []
  small := by
    refine ⟨none, .absent rfl, ?_⟩
    rintro (⟨_, ⟨⟩, _⟩ | large)
    exact absurd large (by decide)
  shallow := by
    intro inList deep
    have read : Json.ofBytes (rejection []).levels (rejection []).chunks.flatten = .ok (.object []) := rfl
    cases read.symm.trans deep

theorem prepare_claimsRequest :
    Http.prepare "GET" config.userinfoEndpoint (UserInfo.headers "at") [] = .ok claimsRequest :=
  except_eq_ok_of_toOption (by decide +kernel)

theorem runs_exchange (response : Http.Response) :
    ∃ history result, Runs (TokenExchange.exchange config .given (some "abc") (some config.callbackUrl))
      (⟨.send .given tokenRequest, .response response⟩ :: history) result := by
  unfold TokenExchange.exchange
  rw [prepare_form config rfl rfl]
  exact ⟨_, _, NetProgram.runs_of_answer .given prepare_tokenRequest (TokenExchange.ofFetch config.tokenEndpoint) _⟩

theorem runs_fetch (response : Http.Response) :
    ∃ history result, Runs (UserInfo.fetch config .given "at")
      (⟨.send .given claimsRequest, .response response⟩ :: history) result :=
  ⟨_, _, NetProgram.runs_of_answer .given prepare_claimsRequest (UserInfo.ofFetch config.userinfoEndpoint) _⟩

end Sample

theorem value_faults_exactly_of_rejection :
    (∃ history result, Runs (TokenExchange.exchange Sample.config .given (some "abc") (some Sample.config.callbackUrl))
        (⟨.send .given Sample.tokenRequest, .response (Sample.rejection [])⟩ :: history) result
        ∧ (notesOf history, result) = TokenExchange.rejection (Sample.rejection []))
      ∧ ∃ history result, Runs (UserInfo.fetch Sample.config .given "at")
          (⟨.send .given Sample.claimsRequest, .response (Sample.rejection [])⟩ :: history) result
          ∧ (notesOf history, result) = UserInfo.rejection (Sample.rejection []) := by
  constructor
  · obtain ⟨history, result, runs⟩ := Sample.runs_exchange (Sample.rejection [])
    have reports := (value_faults_exactly .given Sample.tokenRequest (Sample.rejection [])).2.1 _ _ _ _ _ rfl runs
    exact ⟨history, result, runs, reports.rejected.2 (Sample.legible_rejection rfl)⟩
  · obtain ⟨history, result, runs⟩ := Sample.runs_fetch (Sample.rejection [])
    have reports := (value_faults_exactly .given Sample.claimsRequest (Sample.rejection [])).2.2 _ _ _ _ rfl runs
    exact ⟨history, result, runs, reports.rejected.2 (Sample.legible_rejection rfl)⟩

-- A response that leads to no host, and one with a length in a superscript, which is a digit character and cannot be
-- read: neither refusal is reported.
theorem rejection_lost_to_its_headers :
    (∃ history fault, Sample.abroadResponse.isSuccess = false
      ∧ Runs (UserInfo.fetch Sample.config .given "at")
        (⟨.send .given Sample.claimsRequest, .response Sample.abroadResponse⟩ :: history)
        (.error (.userInfo (.unreadable fault))))
      ∧ ∃ history fault, (Sample.rejection [("Content-Length", "²")]).isSuccess = false
        ∧ Runs (TokenExchange.exchange Sample.config .given (some "abc") (some Sample.config.callbackUrl))
          (⟨.send .given Sample.tokenRequest, .response (Sample.rejection [("Content-Length", "²")])⟩ :: history)
          (.error (.token (.unreadable fault))) := by
  constructor
  · obtain ⟨history, result, runs⟩ := Sample.runs_fetch Sample.abroadResponse
    have reports := UserInfo.reports_of_runs rfl runs
    obtain ⟨fault, told⟩ := reports.invalid.2 (.astray rfl Sample.checkRedirect_abroadResponse rfl)
    exact ⟨history, fault, rfl, told ▸ runs⟩
  · have unreadable : Http.UnreadableLength [("Content-Length", "²")] :=
      @Http.UnreadableLength.other _ "²" rfl (by decide) ⟨_, List.mem_cons_self, by decide⟩
    obtain ⟨history, result, runs⟩ := Sample.runs_exchange (Sample.rejection [("Content-Length", "²")])
    have reports := TokenExchange.reports_of_runs rfl runs
    obtain ⟨fault, told⟩ := reports.invalid.2 (.length (Sample.delivered_rejection rfl _) unreadable)
    exact ⟨history, fault, rfl, told ▸ runs⟩

end OidcLogin
