import OidcLogin.Proofs.Program.Lockstep
import OidcLogin.Proofs.Provider.Acceptance
import OidcLogin.Proofs.Settings.Endpoint

namespace OidcLogin

open Program

namespace Resolution

structure Requirement where
  setting : Text
  met : Prop

-- The first requirement that is not met is the one of this setting.
inductive FirstFailing : List Requirement → Text → Prop
  | here {setting : Text} {met : Prop} {rest : List Requirement} (unmet : ¬ met) :
      FirstFailing (⟨setting, met⟩ :: rest) setting
  | later {requirement : Requirement} {rest : List Requirement} {setting : Text} (met : requirement.met)
      (after : FirstFailing rest setting) : FirstFailing (requirement :: rest) setting

def text (setting : Text) (value : Option Text) : Requirement := ⟨setting, isSet value = true⟩

def address (allowHttp : Bool) (setting : Text) (value : Option Text) : Requirement :=
  ⟨setting, ∃ url, checkEndpoint setting value allowHttp = .ok url⟩

def groundRequirements (s : Settings) : List Requirement :=
  [text "client_id" s.clientId, text "client_secret" s.clientSecret, address true "web_url" (some s.webUrl)]

def endpointRequirements (s : Settings) : List Requirement :=
  if isSet s.issuerUrl then [address s.unsafeLocalDev "issuer_url" s.issuerUrl]
  else [address s.unsafeLocalDev "auth_url" s.authUrl, address s.unsafeLocalDev "token_url" s.tokenUrl,
    address s.unsafeLocalDev "userinfo_url" s.userinfoUrl]

-- What is asked of settings, in the order in which it is looked at.
def requirements (s : Settings) : List Requirement := groundRequirements s ++ endpointRequirements s

section FirstFailing

variable {first rest all : List Requirement} {setting other : Text}

theorem FirstFailing.unique (failing : FirstFailing all setting) (again : FirstFailing all other) :
    setting = other := by
  induction failing with
  | here unmet =>
    cases again with
    | here _ => rfl
    | later met _ => exact absurd met unmet
  | later met _ ih =>
    cases again with
    | here unmet => exact absurd met unmet
    | later _ after => exact ih after

theorem FirstFailing.not_met (failing : FirstFailing all setting) : ¬ ∀ requirement ∈ all, requirement.met := by
  intro met
  induction failing with
  | here unmet => exact unmet (met _ List.mem_cons_self)
  | later _ _ ih => exact ih fun requirement member => met requirement (List.mem_cons_of_mem _ member)

theorem FirstFailing.append (failing : FirstFailing first setting) (rest : List Requirement) :
    FirstFailing (first ++ rest) setting := by
  induction failing with
  | here unmet => exact .here unmet
  | later met _ ih => exact .later met ih

theorem firstFailing_append (met : ∀ requirement ∈ first, requirement.met) (failing : FirstFailing rest setting) :
    FirstFailing (first ++ rest) setting := by
  induction first with
  | nil => exact failing
  | cons requirement first ih =>
    obtain ⟨here, others⟩ := List.forall_mem_cons.1 met
    exact .later here (ih others)

end FirstFailing

section Settings

variable {s : Settings} {name : Text} {value : Option Text} {allowHttp : Bool} {fault : SettingFault}

theorem isSet_iff : isSet value = true ↔ ∃ t, value = some t ∧ t ≠ [] := by
  unfold isSet
  split
  · simp
  · simp
  · rename_i t full
    exact ⟨fun _ => ⟨t, rfl, fun empty => full (empty ▸ rfl)⟩, fun _ => rfl⟩

theorem firstFailing_of_checkEndpoint (rest : List Requirement)
    (refused : checkEndpoint name value allowHttp = .error fault) :
    FirstFailing (address allowHttp name value :: rest) fault.setting := by
  rw [(refuses_of_checkEndpoint refused).setting]
  refine .here fun met => ?_
  obtain ⟨url, accepted⟩ := met
  cases refused.symm.trans accepted

theorem firstFailing_of_checkGround (refused : checkGround s = .error fault) :
    FirstFailing (groundRequirements s) fault.setting := by
  unfold checkGround at refused
  unfold groundRequirements text
  split at refused
  · rename_i absent
    cases refused
    exact .here (by simp [absent, isSet])
  · rename_i empty
    cases refused
    exact .here (by simp [empty, isSet])
  · rename_i clientId unnamed given
    refine .later (isSet_iff.2 ⟨clientId, given, unnamed⟩) ?_
    split at refused
    · rename_i absent
      cases refused
      exact .here (by simp [absent, isSet])
    · rename_i empty
      cases refused
      exact .here (by simp [empty, isSet])
    · rename_i clientSecret unkept secretGiven
      refine .later (isSet_iff.2 ⟨clientSecret, secretGiven, unkept⟩) ?_
      split at refused
      · rename_i failed
        cases refused
        exact firstFailing_of_checkEndpoint [] failed
      · cases refused

theorem met_of_checkGround {ground : Ground} (checked : checkGround s = .ok ground) :
    ∀ requirement ∈ groundRequirements s, requirement.met := by
  have grounds := checkGround_eq_ok.1 checked
  refine List.forall_mem_cons.2 ⟨isSet_iff.2 ⟨_, grounds.clientId, grounds.named⟩, ?_⟩
  refine List.forall_mem_cons.2 ⟨isSet_iff.2 ⟨_, grounds.clientSecret, grounds.secret⟩, ?_⟩
  exact List.forall_mem_singleton.2 ⟨_, checkEndpoint_eq_ok.2 ⟨congrArg some grounds.webUrl, grounds.baseUrl⟩⟩

theorem firstFailing_of_checkEndpoints {authorization token userinfo : Text × Option Text}
    (refused : checkEndpoints allowHttp authorization token userinfo = .error fault) :
    FirstFailing [address allowHttp authorization.1 authorization.2, address allowHttp token.1 token.2,
      address allowHttp userinfo.1 userinfo.2] fault.setting := by
  unfold checkEndpoints at refused
  split at refused
  · rename_i failed
    cases refused
    exact firstFailing_of_checkEndpoint _ failed
  · rename_i accepted
    refine .later ⟨_, accepted⟩ ?_
    split at refused
    · rename_i failed
      cases refused
      exact firstFailing_of_checkEndpoint _ failed
    · rename_i accepted
      refine .later ⟨_, accepted⟩ ?_
      split at refused
      · rename_i failed
        cases refused
        exact firstFailing_of_checkEndpoint _ failed
      · cases refused

theorem endpointRequirements_of_issuer (named : isSet s.issuerUrl = true) :
    endpointRequirements s = [address s.unsafeLocalDev "issuer_url" s.issuerUrl] := if_pos named

theorem endpointRequirements_of_unnamed (unnamed : isSet s.issuerUrl = false) :
    endpointRequirements s = [address s.unsafeLocalDev "auth_url" s.authUrl,
      address s.unsafeLocalDev "token_url" s.tokenUrl, address s.unsafeLocalDev "userinfo_url" s.userinfoUrl] :=
  if_neg (by simp [unnamed])

theorem firstFailing_of_explicitEndpoints (unnamed : isSet s.issuerUrl = false)
    {failure : Failure} (refused : explicitEndpoints s = .error failure) :
    ∃ fault, failure = .setting fault ∧ FirstFailing (endpointRequirements s) fault.setting := by
  unfold explicitEndpoints at refused
  split at refused
  · cases refused
  · rename_i fault failed
    cases refused
    rw [endpointRequirements_of_unnamed unnamed]
    exact ⟨fault, rfl, firstFailing_of_checkEndpoints failed⟩

theorem met_of_explicitEndpoints (unnamed : isSet s.issuerUrl = false) {endpoints : Endpoints}
    (explicit : explicitEndpoints s = .ok endpoints) :
    ∀ requirement ∈ endpointRequirements s, requirement.met := by
  obtain ⟨⟨first, second, third⟩, accepted⟩ := explicitEndpoints_eq_ok.1 explicit
  rw [endpointRequirements_of_unnamed unnamed]
  refine List.forall_mem_cons.2 ⟨⟨_, checkEndpoint_eq_ok.2 ⟨first, accepted.authorization⟩⟩, ?_⟩
  refine List.forall_mem_cons.2 ⟨⟨_, checkEndpoint_eq_ok.2 ⟨second, accepted.token⟩⟩, ?_⟩
  exact List.forall_mem_singleton.2 ⟨_, checkEndpoint_eq_ok.2 ⟨third, accepted.userinfo⟩⟩

end Settings

variable {s : Settings} {given : Option HttpClient} {history : List NetExchange}
  {result : Except Failure ProviderConfig}

-- An issuer is asked: it is named, and there is nothing to be said against the settings.
def Attempts (s : Settings) : Prop :=
  isSet s.issuerUrl = true ∧ ∀ requirement ∈ requirements s, requirement.met

def ignoring : Note :=
  .warning "Both issuer_url and explicit endpoints are configured; using discovery from issuer_url"

def opening (s : Settings) : List Note := if hasExplicitEndpoint s then [ignoring] else []

def closing : Except Failure ProviderConfig → List Note
  | .ok config => [.debug ("OpenID provider configured with authorization endpoint " ++ config.authorizationEndpoint)]
  | .error _ => []

theorem runs_opening {α : Type} {program : NetProgram α} {value : α} :
    Runs (if hasExplicitEndpoint s then NetProgram.note ignoring >>= fun _ => program else program) history value
      ↔ ∃ rest, history = noting (opening s) ++ rest ∧ Runs program rest value := by
  unfold opening
  split
  · exact NetProgram.runs_note_bind
  · exact ⟨fun runs => ⟨history, rfl, runs⟩, fun ⟨_, same, runs⟩ => same ▸ runs⟩

theorem runs_discoverWith {issuer : Text} {metadata : Except Failure ProviderMetadata} :
    Runs (discoverWith s issuer given) history metadata
      ↔ ∃ client asked, Attends (policyOf s) given client asked history
          ∧ Runs (Discovery.discover issuer client) asked metadata := by
  cases given with
  | some client =>
    constructor
    · intro runs
      exact ⟨client, history, .given client history, runs⟩
    · rintro ⟨_, _, attends, runs⟩
      cases attends
      exact runs
  | none =>
    unfold discoverWith
    rw [runs_ask]
    constructor
    · rintro ⟨client, rest, rfl, after⟩
      obtain ⟨asked, value, closed, rfl, runs, last⟩ := runs_bind.1 after
      obtain ⟨_, _, rfl, finished⟩ := runs_ask.1 last
      obtain ⟨rfl, rfl⟩ := runs_done.1 finished
      exact ⟨client, asked, .own client asked, runs⟩
    · rintro ⟨client, asked, attends, runs⟩
      cases attends
      exact ⟨client, _, rfl, runs_bind.2 ⟨asked, metadata, _, rfl, runs, .ask _ _ _ _ _ (.done metadata)⟩⟩

theorem runs_discovered {allowHttp : Bool} {issuer : Text} {metadata : Except Failure ProviderMetadata}
    {found : Except Failure (Option Text × Endpoints)} :
    Runs
        (match metadata with
          | .error failure => pure (.error failure)
          | .ok m => pure ((discoveredEndpoints allowHttp issuer m).map (some issuer, ·)) :
          NetProgram (Except Failure (Option Text × Endpoints))) history found
      ↔ history = [] ∧ found = metadata >>= fun m => (discoveredEndpoints allowHttp issuer m).map (some issuer, ·) := by
  cases metadata with
  | error failure => exact runs_done
  | ok m => exact runs_done

-- Where the endpoints are sought, with all that is noted.
inductive Sought (s : Settings) (given : Option HttpClient) :
    List NetExchange → Except Failure (Option Text × Endpoints) → Prop
  | settings (unnamed : isSet s.issuerUrl = false) : Sought s given [] ((explicitEndpoints s).map (none, ·))
  | refused {fault : SettingFault} (named : isSet s.issuerUrl = true)
      (refused : checkEndpoint "issuer_url" s.issuerUrl s.unsafeLocalDev = .error fault) :
      Sought s given [] (.error (.setting fault))
  | issuer {issuer : Text} {client : HttpClient} {asked attended : List NetExchange}
      {metadata : Except Failure ProviderMetadata} (named : s.issuerUrl = some issuer)
      (accepts : Accepts s.unsafeLocalDev issuer)
      (discovers : Runs (Discovery.discover issuer client) asked metadata)
      (attends : Attends (policyOf s) given client asked attended) :
      Sought s given (noting (opening s) ++ attended)
        (metadata >>= fun m => (discoveredEndpoints s.unsafeLocalDev issuer m).map (some issuer, ·))

theorem sought_of_runs {found : Except Failure (Option Text × Endpoints)}
    (runs : Runs (endpointsOf s given) history found) : Sought s given history found := by
  unfold endpointsOf at runs
  split at runs
  · rename_i absent
    obtain ⟨rfl, rfl⟩ := runs_done.1 runs
    exact .settings (by rw [absent]; rfl)
  · rename_i empty
    obtain ⟨rfl, rfl⟩ := runs_done.1 runs
    exact .settings (by rw [empty]; rfl)
  · rename_i issuer full named
    have set : isSet s.issuerUrl = true := isSet_iff.2 ⟨issuer, named, full⟩
    cases checked : checkEndpoint "issuer_url" (some issuer) s.unsafeLocalDev with
    | error fault =>
      rw [checked] at runs
      obtain ⟨rfl, rfl⟩ := runs_done.1 runs
      exact .refused set (named ▸ checked)
    | ok same =>
      obtain ⟨given', accepts⟩ := checkEndpoint_eq_ok.1 checked
      cases given'
      rw [checked] at runs
      obtain ⟨rest, rfl, after⟩ := runs_opening.1 runs
      obtain ⟨attended, metadata, last, rfl, discovered, settled⟩ := runs_bind.1 after
      obtain ⟨rfl, rfl⟩ := runs_discovered.1 settled
      rw [List.append_nil]
      obtain ⟨client, asked, attends, discovers⟩ := runs_discoverWith.1 discovered
      exact .issuer named accepts discovers attends

theorem runs_resolve_of_ground {ground : Ground} (checked : checkGround s = .ok ground)
    (runs : Runs (resolve s given) history result) :
    ∃ before found, Runs (endpointsOf s given) before found
      ∧ result = (found >>= fun ends => configOf s ground ends.1 ends.2)
      ∧ history = before ++ noting (closing result) := by
  unfold resolve at runs
  rw [checked] at runs
  obtain ⟨before, found, after, rfl, first, rest⟩ := runs_bind.1 runs
  refine ⟨before, found, first, ?_⟩
  cases found with
  | error failure =>
    obtain ⟨rfl, rfl⟩ := runs_done.1 rest
    exact ⟨rfl, rfl⟩
  | ok ends =>
    obtain ⟨issuer, endpoints⟩ := ends
    change result = configOf s ground issuer endpoints ∧ _
    dsimp only at rest
    cases made : configOf s ground issuer endpoints with
    | error failure =>
      rw [made] at rest
      obtain ⟨rfl, rfl⟩ := runs_done.1 rest
      exact ⟨rfl, rfl⟩
    | ok config =>
      rw [made] at rest
      obtain ⟨last, rfl, finished⟩ := NetProgram.runs_note_bind.1 rest
      obtain ⟨rfl, rfl⟩ := runs_done.1 finished
      have told : endpoints.authorization = config.authorizationEndpoint := by
        rw [(configOf_eq_ok.1 made).2]
      refine ⟨rfl, ?_⟩
      rw [List.append_nil, told]
      rfl

def Blameless {α : Type} (result : Except Failure α) : Prop := ∀ fault, result ≠ .error (.setting fault)

section Blameless

variable {α β : Type}

theorem blameless_of_kind {result : Except Failure α}
    (other : ∀ failure, result = .error failure → failure.kind ≠ .configuration) : Blameless result :=
  fun fault blamed => other (.setting fault) blamed rfl

theorem blameless_bind {first : Except Failure α} {next : α → Except Failure β} (one : Blameless first)
    (others : ∀ value, Blameless (next value)) : Blameless (first >>= next) := by
  cases first with
  | error failure => exact fun fault blamed => one fault (congrArg _ (Except.error.inj blamed))
  | ok value => exact others value

theorem blameless_map {first : Except Failure α} {f : α → β} (one : Blameless first) : Blameless (first.map f) := by
  cases first with
  | error failure => exact fun fault blamed => one fault (congrArg _ (Except.error.inj blamed))
  | ok value => exact nofun

theorem blameless_configOf (ground : Ground) (issuer : Option Text) (endpoints : Endpoints) :
    Blameless (configOf s ground issuer endpoints) :=
  blameless_of_kind fun _ failed other => by cases (kind_of_configOf failed).symm.trans other

theorem blameless_discoveredEndpoints (allowHttp : Bool) (issuer : Text) (m : ProviderMetadata) :
    Blameless (discoveredEndpoints allowHttp issuer m) :=
  blameless_of_kind fun _ failed other => by cases (kind_of_discoveredEndpoints failed).symm.trans other

theorem blameless_ofFetch (issuer : Text) (fetched : Except Http.FetchFault (Http.Response × Json)) :
    Blameless (Discovery.ofFetch issuer fetched) := by
  intro fault blamed
  unfold Discovery.ofFetch at blamed
  split at blamed
  · split at blamed
    · cases blamed
    · split at blamed
      · cases blamed
      · cases blamed
  · split at blamed
    · cases blamed
    · split at blamed
      · cases blamed
      · cases blamed

end Blameless

-- What is done of a resolution, and when.
structure InOrder (s : Settings) (given : Option HttpClient) (history : List NetExchange)
    (result : Except Failure ProviderConfig) : Prop where
  blamed : ∀ name, (∃ fault, result = .error (.setting fault) ∧ fault.setting = name)
    ↔ FirstFailing (requirements s) name
  untold : ∀ fault, result = .error (.setting fault) → (Failure.setting fault).kind = .configuration ∧ history = []
  unasked : ¬ Attempts s → ∀ exchange ∈ history, exchange.1.isAct = false
  -- everything that is asked is asked of the issuer, by the client that was handed in or by one that is opened
  -- right before and closed right after
  asked : Attempts s → ∃ issuer client asked attended metadata, s.issuerUrl = some issuer
    ∧ Runs (Discovery.discover issuer client) asked metadata
    ∧ AtMostOneRequest client (traceOf NetEffect.isAct asked)
    ∧ Attends (policyOf s) given client asked attended
    ∧ history = noting (opening s) ++ attended ++ noting (closing result)
  warned : ignoring ∈ notesOf history ↔ Attempts s ∧ hasExplicitEndpoint s = true

theorem ignoring_not_mem_closing (result : Except Failure ProviderConfig) : ignoring ∉ closing result := by
  intro member
  cases result with
  | error failure => cases member
  | ok config => cases List.mem_singleton.1 member

theorem inOrder_of_refused {fault : SettingFault} (failing : FirstFailing (requirements s) fault.setting) :
    InOrder s given [] (.error (.setting fault)) := by
  have unattempted : ¬ Attempts s := fun attempts => failing.not_met attempts.2
  constructor
  case blamed =>
    intro name
    constructor
    · rintro ⟨_, ⟨⟩, rfl⟩
      exact failing
    · intro another
      exact ⟨fault, rfl, failing.unique another⟩
  case untold =>
    rintro _ ⟨⟩
    exact ⟨rfl, rfl⟩
  case unasked => exact fun _ _ member => absurd member List.not_mem_nil
  case asked => exact fun attempts => absurd attempts unattempted
  case warned => exact ⟨fun member => absurd member List.not_mem_nil, fun told => absurd told.1 unattempted⟩

theorem blamed_of_met (met : ∀ requirement ∈ requirements s, requirement.met) (blameless : Blameless result)
    (name : Text) :
    (∃ fault, result = .error (.setting fault) ∧ fault.setting = name) ↔ FirstFailing (requirements s) name := by
  constructor
  · rintro ⟨fault, blamed, _⟩
    exact absurd blamed (blameless fault)
  · intro failing
    exact absurd met failing.not_met

theorem inOrder_of_explicit (unnamed : isSet s.issuerUrl = false)
    (met : ∀ requirement ∈ requirements s, requirement.met) (blameless : Blameless result) :
    InOrder s given (noting (closing result)) result := by
  have unattempted : ¬ Attempts s := fun attempts => by cases unnamed.symm.trans attempts.1
  constructor
  case blamed => exact blamed_of_met met blameless
  case untold => exact fun fault blamed => absurd blamed (blameless fault)
  case unasked => exact fun _ _ member => not_isAct_of_mem_noting member
  case asked => exact fun attempts => absurd attempts unattempted
  case warned =>
    rw [notesOf_noting]
    exact ⟨fun member => absurd member (ignoring_not_mem_closing result), fun told => absurd told.1 unattempted⟩

theorem notesOf_attends {policy : ClientPolicy} {client : HttpClient} {asked attended : List NetExchange}
    (attends : Attends policy given client asked attended) : notesOf attended = notesOf asked := by
  cases attends with
  | given _ _ => rfl
  | own _ _ =>
    change notesOf (asked ++ [_]) = notesOf asked
    rw [notesOf_append]
    exact List.append_nil _

theorem asked_of_discover {issuer : Text} {client : HttpClient} {asked : List NetExchange}
    {metadata : Except Failure ProviderMetadata} (runs : Runs (Discovery.discover issuer client) asked metadata) :
    AtMostOneRequest client (traceOf NetEffect.isAct asked) ∧ ignoring ∉ notesOf asked := by
  obtain ⟨sent, fetched, fetches, rfl, _⟩ := Discovery.runs_discover.1 runs
  have silent : notesOf sent = [] := by
    rcases NetProgram.runs_fetch.1 fetches with ⟨_, _, rfl, _⟩ | ⟨_, _, _, rfl, _⟩
    · rfl
    · rfl
  refine ⟨?_, ?_⟩
  · rw [Discovery.traceOf_discover]
    exact NetProgram.leaves_fetch_atMostOne fetches.leaves
  · rw [notesOf_append, notesOf_append, notesOf_noting, notesOf_noting, silent, List.nil_append]
    intro member
    rcases List.mem_append.1 member with member | member
    · simp [Discovery.opening, ignoring, Note.warning] at member
    · cases metadata with
      | error failure =>
        obtain ⟨event, _, impossible⟩ := List.mem_map.1 member
        cases impossible
      | ok m => simp [Discovery.closing, ignoring, Note.warning, Note.info] at member

theorem inOrder_of_issuer {issuer : Text} {client : HttpClient} {asked attended : List NetExchange}
    {metadata : Except Failure ProviderMetadata} (named : s.issuerUrl = some issuer)
    (attempts : Attempts s) (runs : Runs (Discovery.discover issuer client) asked metadata)
    (attends : Attends (policyOf s) given client asked attended) (blameless : Blameless result) :
    InOrder s given (noting (opening s) ++ attended ++ noting (closing result)) result := by
  obtain ⟨once, silent⟩ := asked_of_discover runs
  constructor
  case blamed => exact blamed_of_met attempts.2 blameless
  case untold => exact fun fault blamed => absurd blamed (blameless fault)
  case unasked => exact fun unattempted => absurd attempts unattempted
  case asked => exact fun _ => ⟨issuer, client, asked, attended, metadata, named, runs, once, attends, rfl⟩
  case warned =>
    rw [notesOf_append, notesOf_append, notesOf_noting, notesOf_noting, notesOf_attends attends, List.append_assoc,
      List.mem_append, List.mem_append]
    unfold opening
    constructor
    · rintro (told | told | told)
      · by_cases explicit : hasExplicitEndpoint s = true
        · exact ⟨attempts, explicit⟩
        · rw [if_neg explicit] at told
          cases told
      · exact absurd told silent
      · exact absurd told (ignoring_not_mem_closing result)
    · intro told
      rw [if_pos told.2]
      exact .inl List.mem_cons_self

-- Every run of a resolution goes in this order.
theorem resolution_in_order (runs : Runs (resolve s given) history result) : InOrder s given history result := by
  cases checked : checkGround s with
  | error fault =>
    unfold resolve at runs
    rw [checked] at runs
    obtain ⟨rfl, rfl⟩ := runs_done.1 runs
    exact inOrder_of_refused ((firstFailing_of_checkGround checked).append _)
  | ok ground =>
    obtain ⟨before, found, ends, rfl, rfl⟩ := runs_resolve_of_ground checked runs
    have grounds := met_of_checkGround checked
    have blameless (one : Blameless found) : Blameless (found >>= fun ends => configOf s ground ends.1 ends.2) :=
      blameless_bind one fun ends => blameless_configOf ground ends.1 ends.2
    cases sought_of_runs ends with
    | settings unnamed =>
      cases explicit : explicitEndpoints s with
      | error failure =>
        obtain ⟨fault, rfl, failing⟩ := firstFailing_of_explicitEndpoints unnamed explicit
        exact inOrder_of_refused (firstFailing_append grounds failing)
      | ok endpoints =>
        rw [explicit] at blameless
        have met := List.forall_mem_append.2 ⟨grounds, met_of_explicitEndpoints unnamed explicit⟩
        exact inOrder_of_explicit unnamed met (blameless nofun)
    | @refused fault named refused =>
      refine inOrder_of_refused (firstFailing_append grounds ?_)
      rw [endpointRequirements_of_issuer named]
      exact firstFailing_of_checkEndpoint [] refused
    | @issuer issuer _ _ _ metadata named accepts discovers attends =>
      have set : isSet s.issuerUrl = true := isSet_of_accepts named accepts
      have met : ∀ requirement ∈ endpointRequirements s, requirement.met := by
        rw [endpointRequirements_of_issuer set]
        exact List.forall_mem_singleton.2 ⟨issuer, checkEndpoint_eq_ok.2 ⟨named, accepts⟩⟩
      obtain ⟨_, fetched, _, _, rfl⟩ := Discovery.runs_discover.1 discovers
      refine inOrder_of_issuer named ⟨set, List.forall_mem_append.2 ⟨grounds, met⟩⟩ discovers attends (blameless ?_)
      refine blameless_bind (blameless_ofFetch issuer fetched) fun m => ?_
      exact blameless_map (blameless_discoveredEndpoints _ issuer m)

theorem attempts_issuerSettings : Attempts (Sample.issuerSettings Sample.issuer) := by
  refine ⟨rfl, List.forall_mem_append.2 ⟨met_of_checkGround (Sample.checkGround_issuerSettings _), ?_⟩⟩
  rw [endpointRequirements_of_issuer rfl]
  exact List.forall_mem_singleton.2 ⟨_, checkEndpoint_eq_ok.2 ⟨rfl, Sample.accepts_issuer⟩⟩

theorem resolution_in_order_of_silence :
    ∃ history result, Runs (resolve (Sample.issuerSettings Sample.issuer) none) history result
      ∧ InOrder (Sample.issuerSettings Sample.issuer) none history result
      ∧ Attempts (Sample.issuerSettings Sample.issuer) ∧ ignoring ∈ notesOf history := by
  obtain ⟨history, runs, _⟩ := exists_runs (fun effect => Sample.silence (.net effect))
    (resolve (Sample.issuerSettings Sample.issuer) none)
  have order := resolution_in_order runs
  exact ⟨history, _, runs, order, attempts_issuerSettings, order.warned.2 ⟨attempts_issuerSettings, rfl⟩⟩

end Resolution

end OidcLogin
