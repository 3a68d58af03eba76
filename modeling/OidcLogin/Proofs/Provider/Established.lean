import OidcLogin.Proofs.Provider.Course
import OidcLogin.Proofs.Settings.Normal

namespace OidcLogin

open Program

namespace Discovery

-- What an issuer told of itself when it was asked.
structure Told (issuer : Text) (request : Http.Request) (response : Http.Response) (metadata : ProviderMetadata) :
    Prop where
  asked : Http.prepare "GET" (url issuer) [("Accept", "application/json")] [] = .ok request
  success : response.isSuccess = true
  document : ∃ members, Json.ofBytes response.levels response.chunks.flatten = .ok (.object members)
    ∧ ProviderMetadata.read members = .ok metadata
  issuer : withoutSlashes metadata.issuer = withoutSlashes issuer

theorem leaves_discover_ok {issuer : Text} {client : HttpClient} {trace : List NetExchange}
    {metadata : ProviderMetadata} (left : Leaves NetEffect.isAct (discover issuer client) trace (.ok metadata)) :
    ∃ request response, trace = [⟨.send client request, .response response⟩]
      ∧ Told issuer request response metadata := by
  obtain ⟨_, fetched, same⟩ := leaves_discover.1 left
  obtain ⟨response, document, rfl, accepted, declared⟩ := ofFetch_eq_ok.1 same.symm
  obtain ⟨request, asked, sent, _, decoded⟩ := NetProgram.leaves_fetch_ok fetched
  obtain ⟨success, members, rfl, read⟩ := ofResponse_eq_ok.1 accepted
  have document := (Http.decodeBody_of_isSuccess success).1 decoded
  exact ⟨request, response, sent, asked, success, ⟨members, document, read⟩, declared⟩

end Discovery

namespace Resolution

variable {s : Settings} {given : Option HttpClient} {config : ProviderConfig} {history trace : List NetExchange}

-- The one source of the endpoints, and what was asked of it.
inductive EndpointsFrom (s : Settings) (given : Option HttpClient) : ProviderConfig → List NetExchange → Prop
  | issuer {issuer : Text} {client : HttpClient} {request : Http.Request} {response : Http.Response}
      {metadata : ProviderMetadata} {config : ProviderConfig} {trace : List NetExchange}
      (named : s.issuerUrl = some issuer) (kept : config.issuer = some issuer)
      (told : Discovery.Told issuer request response metadata)
      (attends : Attends (policyOf s) given client [⟨.send client request, .response response⟩] trace)
      (authorization : config.authorizationEndpoint = metadata.authorizationEndpoint)
      (token : config.tokenEndpoint = metadata.tokenEndpoint)
      (userinfo : config.userinfoEndpoint = metadata.userinfoEndpoint) : EndpointsFrom s given config trace
  | settings {config : ProviderConfig} (unnamed : s.issuerUrl = none) (kept : config.issuer = none)
      (authorization : s.authUrl = some config.authorizationEndpoint)
      (token : s.tokenUrl = some config.tokenEndpoint)
      (userinfo : s.userinfoUrl = some config.userinfoEndpoint) : EndpointsFrom s given config []

-- The endpoints of the settings play no part where an issuer is named.
def IgnoresEndpoints (s : Settings) (given : Option HttpClient) : Prop :=
  ∀ (authUrl tokenUrl userinfoUrl : Option Text) (trace : List NetExchange)
    (result : Except Failure ProviderConfig),
    Leaves NetEffect.isAct
        (resolve { s with authUrl := authUrl, tokenUrl := tokenUrl, userinfoUrl := userinfoUrl } given)
        trace result
      ↔ Leaves NetEffect.isAct (resolve s given) trace result

structure Established (s : Settings) (given : Option HttpClient) (config : ProviderConfig)
    (trace : List NetExchange) : Prop where
  source : EndpointsFrom s given config trace
  ignores : s.issuerUrl ≠ none → IgnoresEndpoints s given
  addresses : Settled s config
  clientId : s.clientId = some config.clientId
  named : config.clientId ≠ []
  clientSecret : s.clientSecret = some config.clientSecret
  secret : config.clientSecret ≠ []
  baseUrl : config.baseUrl = s.webUrl
  unslashed : config.baseUrl.getLast? ≠ some (CodePoint.ofChar '/')
  callbackUrl : config.callbackUrl = config.baseUrl ++ callbackPath
  force : config.force = s.force
  adminGroup : config.adminGroup = s.adminGroup
  allowGroup : config.allowGroup = s.allowGroup
  groupsClaimName : config.groupsClaimName = s.groupsClaimName
  httpTimeout : config.httpTimeout = s.httpTimeout
  restrictPrivateNetworks : config.restrictPrivateNetworks = s.restrictPrivateNetworks

theorem Source.of_otherEndpoints {authUrl tokenUrl userinfoUrl : Option Text}
    {found : Except Failure (Option Text × Endpoints)} (named : isSet s.issuerUrl = true)
    (source : Source s given trace found) :
    Source { s with authUrl := authUrl, tokenUrl := tokenUrl, userinfoUrl := userinfoUrl } given trace found := by
  cases source with
  | settings unnamed =>
    rw [named] at unnamed
    cases unnamed
  | refused named full refused => exact .refused named full refused
  | issuer named accepts discovered => exact .issuer named accepts discovered

theorem Course.of_otherEndpoints {authUrl tokenUrl userinfoUrl : Option Text}
    {result : Except Failure ProviderConfig} (named : isSet s.issuerUrl = true)
    (course : Course s given trace result) :
    Course { s with authUrl := authUrl, tokenUrl := tokenUrl, userinfoUrl := userinfoUrl } given trace result := by
  cases course with
  | incomplete checked => exact .incomplete checked
  | complete checked source => exact .complete checked (source.of_otherEndpoints named)

theorem ignoresEndpoints (named : isSet s.issuerUrl = true) : IgnoresEndpoints s given := by
  intro authUrl tokenUrl userinfoUrl trace result
  rw [leaves_resolve, leaves_resolve]
  constructor
  · intro course
    exact @Course.of_otherEndpoints { s with authUrl := authUrl, tokenUrl := tokenUrl, userinfoUrl := userinfoUrl }
      given trace s.authUrl s.tokenUrl s.userinfoUrl result named course
  · intro course
    exact course.of_otherEndpoints named

theorem isSet_of_ne_nil {t? : Option Text} (some' : t? ≠ none) (full : t? ≠ some []) : isSet t? = true := by
  cases t? with
  | none => exact absurd rfl some'
  | some t =>
    cases t with
    | nil => exact absurd rfl full
    | cons c rest => rfl

theorem Source.endpoints (normal : s.Normal) {found : Except Failure (Option Text × Endpoints)}
    (source : Source s given trace found) {issuer : Option Text} {endpoints : Endpoints}
    (same : found = .ok (issuer, endpoints)) {ground : Ground}
    (made : configOf s ground issuer endpoints = .ok config) :
    EndpointsFrom s given config trace ∧ endpoints.Accepted s.unsafeLocalDev := by
  obtain ⟨_, rfl⟩ := configOf_eq_ok.1 made
  cases source with
  | settings unnamed =>
    obtain ⟨_, explicit, pair⟩ := except_map_eq_ok.1 same
    cases pair
    obtain ⟨⟨first, second, third⟩, accepted⟩ := explicitEndpoints_eq_ok.1 explicit
    have absent : s.issuerUrl = none := by
      by_contra named
      rw [isSet_of_ne_nil named normal.issuerUrl] at unnamed
      cases unnamed
    exact ⟨.settings absent rfl first second third, accepted⟩
  | refused named full refused => cases same
  | issuer named accepts discovered =>
    obtain ⟨metadata, rfl, mapped⟩ := except_bind_eq_ok.1 same
    obtain ⟨_, read, pair⟩ := except_map_eq_ok.1 mapped
    cases pair
    obtain ⟨⟨first, second, third⟩, accepted⟩ := discoveredEndpoints_eq_ok.1 read
    obtain ⟨client, asked, attends, left⟩ := leaves_discoverWith.1 discovered
    obtain ⟨request, response, rfl, told⟩ := Discovery.leaves_discover_ok left
    refine ⟨.issuer named rfl told attends ?_ ?_ ?_, accepted⟩
    · exact (Option.some.inj first).symm
    · exact (Option.some.inj second).symm
    · exact (Option.some.inj third).symm

theorem established_of_runs {keywords : Members} {environment : List (Text × Text)}
    (loaded : Settings.load keywords environment = .ok s) (runs : Runs (resolve s given) history (.ok config)) :
    Established s given config (traceOf NetEffect.isAct history) := by
  have normal := Settings.normal_of_load loaded
  have left : Leaves NetEffect.isAct (resolve s given) (traceOf NetEffect.isAct history) (.ok config) := runs.leaves
  have course := leaves_resolve.1 left
  clear left
  generalize traceOf NetEffect.isAct history = trace at course ⊢
  generalize same : Except.ok config = result at course
  cases course with
  | incomplete checked => cases same
  | complete checked source =>
    obtain ⟨⟨issuer, endpoints⟩, found, made⟩ := except_bind_eq_ok.1 same.symm
    have grounds := checkGround_eq_ok.1 checked
    obtain ⟨from', accepted⟩ := source.endpoints normal found made
    have addresses := settled_of_configOf grounds.baseUrl accepted made
    obtain ⟨_, rfl⟩ := configOf_eq_ok.1 made
    exact {
      source := from'
      ignores := fun named => ignoresEndpoints (isSet_of_ne_nil named normal.issuerUrl)
      addresses := addresses
      clientId := grounds.clientId
      named := grounds.named
      clientSecret := grounds.clientSecret
      secret := grounds.secret
      baseUrl := grounds.webUrl.symm
      unslashed := grounds.webUrl ▸ normal.webUrl
      callbackUrl := rfl
      force := rfl
      adminGroup := rfl
      allowGroup := rfl
      groupsClaimName := rfl
      httpTimeout := rfl
      restrictPrivateNetworks := rfl }

end Resolution

namespace Sample

def issuerKeywords (issuer : Text) : Members :=
  [("client_id", .text "cid"), ("client_secret", .text "secret"), ("web_url", .text "https://app.example.com/"),
   ("issuer_url", .text issuer), ("auth_url", .text "https://elsewhere.example.com")]

def issuerSettings (issuer : Text) : Settings :=
  { settings with
    issuerUrl := some issuer
    authUrl := some "https://elsewhere.example.com"
    tokenUrl := none
    userinfoUrl := none
    adminGroup := none
    allowGroup := none }

def issuer : Text := "https://idp.example.com/"

theorem accepts_issuer : Accepts false issuer := by
  decide +kernel

theorem load_issuerSettings :
    Settings.load (issuerKeywords " https://idp.example.com/ ") [] = .ok (issuerSettings issuer) := by
  unfold issuerKeywords issuerSettings settings config issuer
  repeat rw [Text.ofString_ofList]
  exact except_eq_ok_of_toOption (by decide +kernel)

theorem checkGround_issuerSettings (issuer : Text) :
    Resolution.checkGround (issuerSettings issuer) = .ok ground := by
  have grounds := Resolution.checkGround_eq_ok.1 checkGround_settings
  exact Resolution.checkGround_eq_ok.2 ⟨grounds.clientId, grounds.named, grounds.clientSecret, grounds.secret,
    grounds.webUrl, grounds.baseUrl⟩

def metadataRequest : Http.Request where
  method := "GET"
  url := ⟨"https", [], "idp.example.com", none, "/.well-known/openid-configuration", none, none⟩
  headers := [("Accept", "application/json")]
  body := []

def metadataResponse : Http.Response :=
  answered 200 [] [octets "\x7b\"issuer\":\"https://idp.example.com\",",
    octets "\"authorization_endpoint\":\"https://idp.example.com/authorize\",",
    octets "\"token_endpoint\":\"https://idp.example.com/token\",",
    octets "\"userinfo_endpoint\":\"https://idp.example.com/userinfo\"\x7d"]

def metadata : ProviderMetadata :=
  ⟨"https://idp.example.com", config.authorizationEndpoint, config.tokenEndpoint, config.userinfoEndpoint⟩

def discovered : ProviderConfig :=
  { resolved with issuer := some "https://idp.example.com/", adminGroup := none, allowGroup := none }

theorem prepare_metadataRequest :
    Http.prepare "GET" (Discovery.url issuer) [("Accept", "application/json")] []
      = .ok metadataRequest := by
  unfold metadataRequest issuer
  repeat rw [Text.ofString_ofList]
  exact except_eq_ok_of_toOption (by decide +kernel)

theorem leaves_discover :
    Leaves NetEffect.isAct (Discovery.discover issuer .given)
      [⟨.send .given metadataRequest, .response metadataResponse⟩] (.ok metadata) := by
  refine Discovery.leaves_discover.2
    ⟨_, NetProgram.leaves_fetch.2 (.inr ⟨_, _, prepare_metadataRequest, rfl, rfl⟩), ?_⟩
  unfold metadataResponse metadata config
  repeat rw [octets_ofList]
  repeat rw [Text.ofString_ofList]
  exact (except_eq_ok_of_toOption (by decide +kernel)).symm

theorem leaves_resolve_issuer {trace : List NetExchange} {metadata : Except Failure ProviderMetadata}
    (left : Leaves NetEffect.isAct (Discovery.discover issuer .given) trace metadata) :
    Leaves NetEffect.isAct (Resolution.resolve (issuerSettings issuer) (some .given)) trace
      ((metadata >>= fun m => (Resolution.discoveredEndpoints false issuer m).map (some issuer, ·))
        >>= fun ends => Resolution.configOf (issuerSettings issuer) ground ends.1 ends.2) := by
  have asked : Leaves NetEffect.isAct
      (Resolution.discoverWith (issuerSettings issuer) issuer (some .given)) trace metadata :=
    Resolution.leaves_discoverWith.2 ⟨.given, _, .given .given _, left⟩
  exact Resolution.leaves_resolve.2
    (.complete (checkGround_issuerSettings issuer) (.issuer rfl accepts_issuer asked))

theorem runs_resolve_issuer :
    ∃ history, Runs (Resolution.resolve (issuerSettings issuer) (some .given)) history (.ok discovered) := by
  obtain ⟨history, runs, _⟩ := leaves_resolve_issuer leaves_discover
  have found : Resolution.discoveredEndpoints false issuer metadata = .ok endpoints :=
    Resolution.discoveredEndpoints_eq_ok.2 ⟨⟨rfl, rfl, rfl⟩, accepts_addresses.2⟩
  have ends : (Except.ok metadata >>= fun m =>
      (Resolution.discoveredEndpoints false issuer m).map (some issuer, ·)) = .ok (some issuer, endpoints) :=
    except_bind_eq_ok.2 ⟨metadata, rfl, except_map_eq_ok.2 ⟨endpoints, found, rfl⟩⟩
  refine ⟨history, ?_⟩
  convert runs using 1
  exact (except_bind_eq_ok.2 ⟨_, ends, configOf_endpoints (issuerSettings issuer) (some issuer)⟩).symm

end Sample

namespace Resolution

theorem established_of_runs_of_slashed_issuer :
    ∃ history, Runs (resolve (Sample.issuerSettings Sample.issuer) (some .given)) history (.ok Sample.discovered)
      ∧ Established (Sample.issuerSettings Sample.issuer) (some .given) Sample.discovered
        (traceOf NetEffect.isAct history) := by
  obtain ⟨history, runs⟩ := Sample.runs_resolve_issuer
  exact ⟨history, runs, established_of_runs Sample.load_issuerSettings runs⟩

end Resolution

end OidcLogin
