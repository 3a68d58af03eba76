import OidcLogin.Proofs.Client.Requests
import OidcLogin.Proofs.Client.Sends
import OidcLogin.Proofs.Url.Rejoining
import OidcLogin.Proofs.Validation.Success
import OidcLogin.Provider.Resolution

namespace OidcLogin

open Program

-- What is asked of the parts of an address.
structure Url.Parts.Accepted (parts : Url.Parts) (allowHttp : Bool) : Prop where
  scheme : parts.scheme = "https" ∨ parts.scheme = "http" ∧ allowHttp = true
  authority : parts.authority ≠ []

def Accepts (allowHttp : Bool) (url : Text) : Prop :=
  ∃ parts, Url.split url = .ok parts ∧ parts.Accepted allowHttp

theorem Accepts.ne_nil {allowHttp : Bool} {url : Text} (accepts : Accepts allowHttp url) : url ≠ [] := by
  intro empty
  subst empty
  obtain ⟨parts, split, accepted⟩ := accepts
  cases split
  exact accepted.authority rfl

namespace Accepts

variable {allowHttp : Bool} {url : Text}

theorem authorityOf_ne_nil (accepts : Accepts allowHttp url) : Url.authorityOf url ≠ [] := by
  obtain ⟨parts, split, accepted⟩ := accepts
  exact (Url.split_eq_ok split).2 ▸ accepted.authority

theorem schemeOf (accepts : Accepts allowHttp url) :
    Url.schemeOf url = "https" ∨ Url.schemeOf url = "http" ∧ allowHttp = true := by
  obtain ⟨parts, split, accepted⟩ := accepts
  exact (Url.split_eq_ok split).1 ▸ accepted.scheme

theorem schemeOf_ne_nil (accepts : Accepts allowHttp url) : Url.schemeOf url ≠ [] := by
  rcases accepts.schemeOf with https | ⟨http, _⟩
  · rw [https]; decide
  · rw [http]; decide

theorem isSplit (accepts : Accepts allowHttp url) : ∃ parts, Url.split url = .ok parts ∧ parts.IsSplit := by
  obtain ⟨parts, split, accepted⟩ := accepts
  exact ⟨parts, split, Url.isSplit_of_split (accepted.scheme.imp_right And.left) accepted.authority split⟩

end Accepts

theorem accepted_iff {parts : Url.Parts} {allowHttp : Bool} :
    parts.Accepted allowHttp
      ↔ ((parts.scheme != "http" && parts.scheme != "https") || parts.authority.isEmpty) = false
        ∧ (parts.scheme = "http" && !allowHttp) = false := by
  have distinct : ("http" : Text) ≠ "https" := by decide
  constructor
  · intro accepted
    have full : parts.authority.isEmpty = false := by simpa using accepted.authority
    rcases accepted.scheme with https | ⟨http, allowed⟩
    · simp [https, full, distinct.symm]
    · simp [http, full, allowed]
  · intro given
    obtain ⟨known, policy⟩ := given
    obtain ⟨named, full⟩ := Bool.or_eq_false_iff.1 known
    refine ⟨?_, by simpa using full⟩
    by_cases https : parts.scheme = "https"
    · exact .inl https
    · have http : parts.scheme = "http" := by simpa [https] using named
      exact .inr ⟨http, by simpa [http] using policy⟩

theorem checkEndpoint_eq_ok {name : Text} {value : Option Text} {allowHttp : Bool} {url : Text} :
    checkEndpoint name value allowHttp = .ok url ↔ value = some url ∧ Accepts allowHttp url := by
  unfold checkEndpoint
  split
  · simp
  · constructor
    · intro impossible
      cases impossible
    · intro given
      obtain ⟨same, accepts⟩ := given
      cases same
      exact absurd rfl accepts.ne_nil
  · rename_i written full
    cases split : Url.split written with
    | error fault =>
      constructor
      · intro impossible
        cases impossible
      · intro given
        obtain ⟨same, parts, found, _⟩ := given
        cases same
        cases split.symm.trans found
    | ok parts =>
      dsimp only
      constructor
      · intro checked
        split at checked
        · cases checked
        · split at checked
          · cases checked
          · rename_i known policy
            cases checked
            refine ⟨rfl, parts, split, accepted_iff.2 ⟨?_, ?_⟩⟩
            · exact Bool.eq_false_iff.2 known
            · exact Bool.eq_false_iff.2 policy
      · intro given
        obtain ⟨same, other, found, accepted⟩ := given
        cases same
        cases split.symm.trans found
        obtain ⟨known, policy⟩ := accepted_iff.1 accepted
        rw [if_neg (Bool.eq_false_iff.1 known), if_neg (Bool.eq_false_iff.1 policy)]

instance (allowHttp : Bool) (url : Text) : Decidable (Accepts allowHttp url) :=
  match checked : checkEndpoint [] (some url) allowHttp with
  | .ok _ => .isTrue (Option.some.inj (checkEndpoint_eq_ok.1 checked).1 ▸ (checkEndpoint_eq_ok.1 checked).2)
  | .error _ => .isFalse fun accepts => by cases checked.symm.trans (checkEndpoint_eq_ok.2 ⟨rfl, accepts⟩)

structure Endpoints.Accepted (endpoints : Endpoints) (allowHttp : Bool) : Prop where
  authorization : Accepts allowHttp endpoints.authorization
  token : Accepts allowHttp endpoints.token
  userinfo : Accepts allowHttp endpoints.userinfo

-- What is known of the addresses of a configuration that was resolved.
structure Settled (s : Settings) (config : ProviderConfig) : Prop where
  baseUrl : Accepts true config.baseUrl
  authorization : Accepts s.unsafeLocalDev config.authorizationEndpoint
  token : Accepts s.unsafeLocalDev config.tokenEndpoint
  userinfo : Accepts s.unsafeLocalDev config.userinfoEndpoint

-- The request for the metadata of the issuer that the settings name.
def AsksIssuer (s : Settings) (request : Http.Request) : Prop :=
  ∃ issuer, s.issuerUrl = some issuer ∧ Accepts s.unsafeLocalDev issuer
    ∧ Http.prepare "GET" (Discovery.url issuer) [("Accept", "application/json")] [] = .ok request

theorem Discovery.asks_discover {P : Http.Request → Prop} {issuer : Text} {client : HttpClient}
    (holds : ∀ request, Http.prepare "GET" (url issuer) [("Accept", "application/json")] [] = .ok request →
      P request) :
    Asks (NetEffect.Sends P) (discover issuer client) := by
  refine asks_bind (NetProgram.asks_noteAll fun _ _ => trivial) fun _ => ?_
  refine asks_bind (NetProgram.asks_fetch holds) fun fetched => ?_
  cases ofFetch issuer fetched with
  | error failure => exact asks_bind (NetProgram.asks_noteAll fun _ _ => trivial) fun _ => .done trivial
  | ok metadata => exact .ask trivial fun _ => .ask trivial fun _ => .done trivial

namespace Resolution

theorem checkEndpoints_eq_ok {allowHttp : Bool} {authorization token userinfo : Text × Option Text}
    {endpoints : Endpoints} :
    checkEndpoints allowHttp authorization token userinfo = .ok endpoints
      ↔ (authorization.2 = some endpoints.authorization ∧ token.2 = some endpoints.token
          ∧ userinfo.2 = some endpoints.userinfo)
        ∧ endpoints.Accepted allowHttp := by
  unfold checkEndpoints
  constructor
  · intro checked
    split at checked
    · cases checked
    · rename_i first firstChecked
      split at checked
      · cases checked
      · rename_i second secondChecked
        split at checked
        · cases checked
        · rename_i third thirdChecked
          cases checked
          obtain ⟨firstGiven, firstAccepted⟩ := checkEndpoint_eq_ok.1 firstChecked
          obtain ⟨secondGiven, secondAccepted⟩ := checkEndpoint_eq_ok.1 secondChecked
          obtain ⟨thirdGiven, thirdAccepted⟩ := checkEndpoint_eq_ok.1 thirdChecked
          exact ⟨⟨firstGiven, secondGiven, thirdGiven⟩, firstAccepted, secondAccepted, thirdAccepted⟩
  · intro given
    obtain ⟨⟨firstGiven, secondGiven, thirdGiven⟩, accepted⟩ := given
    rw [checkEndpoint_eq_ok.2 ⟨firstGiven, accepted.authorization⟩]
    dsimp only
    rw [checkEndpoint_eq_ok.2 ⟨secondGiven, accepted.token⟩]
    dsimp only
    rw [checkEndpoint_eq_ok.2 ⟨thirdGiven, accepted.userinfo⟩]

theorem explicitEndpoints_eq_ok {s : Settings} {endpoints : Endpoints} :
    explicitEndpoints s = .ok endpoints
      ↔ (s.authUrl = some endpoints.authorization ∧ s.tokenUrl = some endpoints.token
          ∧ s.userinfoUrl = some endpoints.userinfo)
        ∧ endpoints.Accepted s.unsafeLocalDev := by
  unfold explicitEndpoints
  constructor
  · intro found
    split at found
    · rename_i checked
      cases found
      exact checkEndpoints_eq_ok.1 checked
    · cases found
  · intro given
    rw [checkEndpoints_eq_ok.2 given]

theorem discoveredEndpoints_eq_ok {allowHttp : Bool} {issuer : Text} {metadata : ProviderMetadata}
    {endpoints : Endpoints} :
    discoveredEndpoints allowHttp issuer metadata = .ok endpoints
      ↔ (some metadata.authorizationEndpoint = some endpoints.authorization
          ∧ some metadata.tokenEndpoint = some endpoints.token
          ∧ some metadata.userinfoEndpoint = some endpoints.userinfo)
        ∧ endpoints.Accepted allowHttp := by
  unfold discoveredEndpoints
  constructor
  · intro found
    split at found
    · rename_i checked
      cases found
      exact checkEndpoints_eq_ok.1 checked
    · cases found
  · intro given
    rw [checkEndpoints_eq_ok.2 given]

theorem asks_discoverWith {P : Http.Request → Prop} {s : Settings} {issuer : Text} {given : Option HttpClient}
    (holds : ∀ request,
      Http.prepare "GET" (Discovery.url issuer) [("Accept", "application/json")] [] = .ok request → P request) :
    Asks (NetEffect.Sends P) (discoverWith s issuer given) := by
  cases given with
  | some client => exact Discovery.asks_discover holds
  | none =>
    refine .ask trivial fun client => ?_
    exact asks_bind (Discovery.asks_discover holds) fun _ => .ask trivial fun _ => .done trivial

theorem meets_discovered {P : NetEffect → Prop} {allowHttp : Bool} (issuer : Text)
    (metadata : Except Failure ProviderMetadata) :
    Meets P (fun found => ∀ issuer endpoints, found = .ok (issuer, endpoints) → endpoints.Accepted allowHttp)
      (match metadata with
        | .error failure => pure (.error failure)
        | .ok metadata => pure ((discoveredEndpoints allowHttp issuer metadata).map (some issuer, ·)) :
          NetProgram (Except Failure (Option Text × Endpoints))) := by
  cases metadata with
  | error failure => exact .done fun _ _ impossible => by cases impossible
  | ok metadata =>
    refine .done fun _ _ found => ?_
    obtain ⟨middle, read, same⟩ := except_map_eq_ok.1 found
    cases same
    exact (discoveredEndpoints_eq_ok.1 read).2

theorem meets_endpointsOf (s : Settings) (given : Option HttpClient) :
    Meets (NetEffect.Sends (AsksIssuer s))
      (fun found => ∀ issuer endpoints, found = .ok (issuer, endpoints) → endpoints.Accepted s.unsafeLocalDev)
      (endpointsOf s given) := by
  have explicit : ∀ (issuer : Option Text) endpoints,
      (explicitEndpoints s).map (none, ·) = .ok (issuer, endpoints) →
      endpoints.Accepted s.unsafeLocalDev := by
    intro issuer endpoints found
    obtain ⟨middle, read, same⟩ := except_map_eq_ok.1 found
    cases same
    exact (explicitEndpoints_eq_ok.1 read).2
  unfold endpointsOf
  split
  · exact .done explicit
  · exact .done explicit
  · rename_i issuerUrl full named
    cases checked : checkEndpoint "issuer_url" (some issuerUrl) s.unsafeLocalDev with
    | error fault => exact .done fun _ _ impossible => by cases impossible
    | ok issuer =>
      obtain ⟨same, accepts⟩ := checkEndpoint_eq_ok.1 checked
      cases same
      have discovered : Asks (NetEffect.Sends (AsksIssuer s)) (discoverWith s issuerUrl given) :=
        asks_discoverWith fun request made => ⟨issuerUrl, named, accepts, made⟩
      dsimp only
      split
      · refine asks_bind (.ask trivial fun _ => .done trivial) fun _ => ?_
        exact asks_bind discovered (meets_discovered issuerUrl)
      · exact asks_bind discovered (meets_discovered issuerUrl)

theorem configOf_eq_ok {s : Settings} {ground : Ground} {issuer : Option Text} {endpoints : Endpoints}
    {config : ProviderConfig} :
    configOf s ground issuer endpoints = .ok config
      ↔ (ground.clientId.IsScalar ∧ ground.clientId ≠ [])
        ∧ config = ⟨s.force, ground.clientId, ground.clientSecret, ground.baseUrl ++ callbackPath,
            endpoints.authorization, endpoints.token, endpoints.userinfo, ground.baseUrl, s.adminGroup,
            s.allowGroup, s.groupsClaimName, issuer, s.httpTimeout, s.restrictPrivateNetworks⟩ := by
  unfold configOf
  dsimp only
  cases read : Reader.nonEmptyText ⟨"client_id", none⟩ (.text ground.clientId) with
  | ok clientId =>
    obtain ⟨_, written⟩ := Reader.nonEmptyText_eq_ok.1 read
    cases (Reader.nonEmptyText_eq_ok.1 read).1
    constructor
    · intro same
      cases same
      exact ⟨written, rfl⟩
    · intro given
      rw [given.2]
  | refused violations =>
    constructor
    · intro impossible
      cases impossible
    · intro given
      cases read.symm.trans (Reader.nonEmptyText_eq_ok.2 ⟨rfl, given.1⟩)

theorem settled_of_configOf {s : Settings} {ground : Ground} {issuer : Option Text} {endpoints : Endpoints}
    {config : ProviderConfig} (base : Accepts true ground.baseUrl)
    (accepted : endpoints.Accepted s.unsafeLocalDev)
    (made : configOf s ground issuer endpoints = .ok config) : Settled s config := by
  obtain ⟨_, rfl⟩ := configOf_eq_ok.1 made
  exact ⟨base, accepted.authorization, accepted.token, accepted.userinfo⟩

-- What can be told of settings without the network, if they are complete so far.
structure Grounds (s : Settings) (ground : Ground) : Prop where
  clientId : s.clientId = some ground.clientId
  named : ground.clientId ≠ []
  clientSecret : s.clientSecret = some ground.clientSecret
  secret : ground.clientSecret ≠ []
  webUrl : s.webUrl = ground.baseUrl
  baseUrl : Accepts true ground.baseUrl

theorem checkGround_eq_ok {s : Settings} {ground : Ground} : checkGround s = .ok ground ↔ Grounds s ground := by
  unfold checkGround
  constructor
  · intro checked
    split at checked
    · cases checked
    · cases checked
    · rename_i clientId unnamed given
      split at checked
      · cases checked
      · cases checked
      · rename_i clientSecret unkept secretGiven
        split at checked
        · cases checked
        · rename_i baseUrl baseChecked
          cases checked
          obtain ⟨same, accepts⟩ := checkEndpoint_eq_ok.1 baseChecked
          exact ⟨given, fun empty => unnamed (empty ▸ rfl), secretGiven, fun empty => unkept (empty ▸ rfl),
            Option.some.inj same, accepts⟩
  · intro grounds
    rw [grounds.clientId, grounds.clientSecret]
    obtain ⟨c, clientId, named⟩ := List.exists_cons_of_ne_nil grounds.named
    obtain ⟨d, clientSecret, secret⟩ := List.exists_cons_of_ne_nil grounds.secret
    rw [named, secret, checkEndpoint_eq_ok.2 ⟨congrArg some grounds.webUrl, grounds.baseUrl⟩]
    dsimp only
    rw [← named, ← secret]

-- Resolution asks no one but the issuer, and gives accepted addresses only.
theorem meets_resolve (s : Settings) (given : Option HttpClient) :
    Meets (NetEffect.Sends (AsksIssuer s)) (fun result => ∀ config, result = .ok config → Settled s config)
      (resolve s given) := by
  unfold resolve
  cases checked : checkGround s with
  | error fault => exact .done fun _ impossible => by cases impossible
  | ok ground =>
    refine meets_bind (meets_endpointsOf s given) fun found accepted => ?_
    cases found with
    | error failure => exact .done fun _ impossible => by cases impossible
    | ok ends =>
      obtain ⟨issuer, endpoints⟩ := ends
      dsimp only
      cases made : configOf s ground issuer endpoints with
      | error failure => exact .done fun _ impossible => by cases impossible
      | ok config =>
        refine .ask trivial fun _ => .done fun _ same => ?_
        cases same
        exact settled_of_configOf (checkGround_eq_ok.1 checked).baseUrl (accepted issuer endpoints rfl) made

def explicitConfig (s : Settings) : Except Failure ProviderConfig :=
  match checkGround s with
  | .error fault => .error (.setting fault)
  | .ok ground =>
    match explicitEndpoints s with
    | .error failure => .error failure
    | .ok endpoints => configOf s ground none endpoints

theorem explicitConfig_eq_ok {s : Settings} {config : ProviderConfig} :
    explicitConfig s = .ok config
      ↔ ∃ ground endpoints, checkGround s = .ok ground ∧ explicitEndpoints s = .ok endpoints
          ∧ configOf s ground none endpoints = .ok config := by
  unfold explicitConfig
  constructor
  · intro made
    split at made
    · cases made
    · rename_i ground checked
      split at made
      · cases made
      · rename_i endpoints found
        exact ⟨ground, endpoints, checked, found, made⟩
  · intro given
    obtain ⟨ground, endpoints, checked, found, made⟩ := given
    rw [checked, found]
    exact made

theorem explicitConfig_of_clientId {s : Settings} {config : ProviderConfig} {clientId : Text}
    (scalar : clientId.IsScalar) (named : clientId ≠ []) (made : explicitConfig s = .ok config) :
    explicitConfig { s with clientId := some clientId } = .ok { config with clientId := clientId } := by
  obtain ⟨ground, endpoints, checked, found, told⟩ := explicitConfig_eq_ok.1 made
  have grounds := checkGround_eq_ok.1 checked
  refine explicitConfig_eq_ok.2 ⟨{ ground with clientId := clientId }, endpoints, ?_, found, ?_⟩
  · exact checkGround_eq_ok.2 { grounds with clientId := rfl, named := named }
  · obtain ⟨_, rfl⟩ := configOf_eq_ok.1 told
    exact configOf_eq_ok.2 ⟨⟨scalar, named⟩, rfl⟩

theorem explicitConfig_of_tokenUrl {s : Settings} {config : ProviderConfig} {tokenUrl : Text}
    (accepts : Accepts s.unsafeLocalDev tokenUrl) (made : explicitConfig s = .ok config) :
    explicitConfig { s with tokenUrl := some tokenUrl } = .ok { config with tokenEndpoint := tokenUrl } := by
  obtain ⟨ground, endpoints, checked, found, told⟩ := explicitConfig_eq_ok.1 made
  obtain ⟨⟨authorization, _, userinfo⟩, accepted⟩ := explicitEndpoints_eq_ok.1 found
  refine explicitConfig_eq_ok.2 ⟨ground, { endpoints with token := tokenUrl }, checked, ?_, ?_⟩
  · exact explicitEndpoints_eq_ok.2 ⟨⟨authorization, rfl, userinfo⟩, { accepted with token := accepts }⟩
  · obtain ⟨written, rfl⟩ := configOf_eq_ok.1 told
    exact configOf_eq_ok.2 ⟨written, rfl⟩

theorem leaves_resolve_of_explicit {s : Settings} {given : Option HttpClient} {trace : List NetExchange}
    {result : Except Failure ProviderConfig} (noIssuer : s.issuerUrl = none) :
    Leaves NetEffect.isAct (resolve s given) trace result ↔ trace = [] ∧ result = explicitConfig s := by
  unfold resolve explicitConfig endpointsOf
  rw [noIssuer]
  cases checkGround s with
  | error fault => exact leaves_done
  | ok ground =>
    cases explicitEndpoints s with
    | error failure => exact leaves_done
    | ok endpoints =>
      dsimp only [Except.map]
      rw [leaves_done_bind]
      dsimp only
      cases configOf s ground none endpoints with
      | error failure => exact leaves_done
      | ok config => exact (leaves_silent_bind fun _ _ => NetProgram.leaves_note).trans leaves_pure

end Resolution

namespace Sample

def settings : Settings where
  force := false
  clientId := some config.clientId
  clientSecret := some config.clientSecret
  webUrl := config.baseUrl
  webAddress := none
  webPort := Settings.defaultPort
  issuerUrl := none
  authUrl := some config.authorizationEndpoint
  tokenUrl := some config.tokenEndpoint
  userinfoUrl := some config.userinfoEndpoint
  adminGroup := config.adminGroup
  allowGroup := config.allowGroup
  groupsClaimName := config.groupsClaimName
  httpTimeout := Settings.defaultTimeout
  unsafeLocalDev := false
  restrictPrivateNetworks := false

def resolved : ProviderConfig :=
  { config with callbackUrl := "https://app.example.com/api/session/openid/callback" }

def ground : Resolution.Ground := ⟨config.clientId, config.clientSecret, config.baseUrl⟩

def endpoints : Endpoints :=
  ⟨config.authorizationEndpoint, config.tokenEndpoint, config.userinfoEndpoint⟩

theorem accepts_addresses : Accepts true ground.baseUrl ∧ endpoints.Accepted false := by
  unfold ground endpoints config
  repeat rw [Text.ofString_ofList]
  refine ⟨?_, ?_, ?_, ?_⟩ <;> decide +kernel

theorem callbackUrl_resolved : resolved.callbackUrl = ground.baseUrl ++ callbackPath := by
  change Text.ofString _ = Text.ofString _ ++ Text.ofString _
  rw [Text.ofString_ofList, Text.ofString_ofList, Text.ofString_ofList, ← List.map_append]
  rfl

theorem configOf_endpoints (s : Settings) (issuer : Option Text) :
    Resolution.configOf s ground issuer endpoints
      = .ok { resolved with
          force := s.force, adminGroup := s.adminGroup, allowGroup := s.allowGroup
          groupsClaimName := s.groupsClaimName, issuer := issuer, httpTimeout := s.httpTimeout
          restrictPrivateNetworks := s.restrictPrivateNetworks } := by
  refine Resolution.configOf_eq_ok.2 ⟨by decide, ?_⟩
  rw [← callbackUrl_resolved]
  rfl

theorem checkGround_settings : Resolution.checkGround settings = .ok ground :=
  Resolution.checkGround_eq_ok.2 ⟨rfl, by decide, rfl, by decide, rfl, accepts_addresses.1⟩

theorem explicitEndpoints_settings : Resolution.explicitEndpoints settings = .ok endpoints :=
  Resolution.explicitEndpoints_eq_ok.2 ⟨⟨rfl, rfl, rfl⟩, accepts_addresses.2⟩

theorem explicitConfig_settings : Resolution.explicitConfig settings = .ok resolved :=
  Resolution.explicitConfig_eq_ok.2
    ⟨ground, endpoints, checkGround_settings, explicitEndpoints_settings, configOf_endpoints settings none⟩

theorem runs_resolve : ∃ before, Runs (Resolution.resolve settings none) before (.ok resolved) := by
  obtain ⟨before, resolving, _⟩ :=
    (Resolution.leaves_resolve_of_explicit rfl).2 ⟨rfl, explicitConfig_settings.symm⟩
  exact ⟨before, resolving⟩

end Sample

end OidcLogin
