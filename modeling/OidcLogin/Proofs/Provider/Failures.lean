import OidcLogin.Proofs.Client.Failures
import OidcLogin.Proofs.Provider.Established

namespace OidcLogin

open Program

theorem Attends.mem {policy : ClientPolicy} {given : Option HttpClient} {client : HttpClient}
    {asked trace : List NetExchange} (attends : Attends policy given client asked trace) {exchange : NetExchange}
    (member : exchange ∈ asked) : exchange ∈ trace := by
  cases attends with
  | given _ _ => exact member
  | own _ _ => exact List.mem_cons_of_mem _ (List.mem_append_left _ member)

theorem NetProgram.unique_trace {α : Type} {program : NetProgram α} {trace : List NetExchange} {result other : α}
    (left : Leaves NetEffect.isAct program trace result) (again : Leaves NetEffect.isAct program trace other) :
    result = other := by
  refine left.unique (fun effect dropped => ?_) again
  cases effect with
  | note n => exact inferInstanceAs (Subsingleton Unit)
  | send _ _ | openClient _ | closeClient _ => cases dropped

theorem netAnswers_traceOf {history : List NetExchange} :
    NetAnswers (traceOf NetEffect.isAct history) ↔ NetAnswers history := by
  constructor
  · intro answers client request r member
    exact answers client request r (mem_traceOf.2 ⟨member, rfl⟩)
  · intro answers client request r member
    exact answers client request r (mem_traceOf.1 member).1

theorem Discovery.settles (issuer : Text) :
    Settles (fun fetched => ([], ofFetch issuer fetched)) .discovery := by
  constructor
  case passes =>
    intro fault notNetwork notValue
    simp [ofFetch, notNetwork, notValue]
  case keeps =>
    intro fault kept
    by_cases network : fault.isNetwork
    · exact ⟨.discovery (.unreachable (url issuer) fault), by simp [ofFetch, network], rfl⟩
    · have value := kept.resolve_left network
      exact ⟨.discovery (.unreadable (url issuer) fault), by simp [ofFetch, network, value], rfl⟩
  case tells =>
    intro answer failure failed
    unfold ofFetch at failed
    dsimp only at failed
    split at failed
    · cases failed
      rfl
    · split at failed
      · cases failed
      · cases failed
        rfl

namespace Resolution

variable {s : Settings} {given : Option HttpClient} {trace : List NetExchange} {failure : Failure} {kind : Kind}

theorem kind_of_explicitEndpoints (failed : explicitEndpoints s = .error failure) :
    failure.kind = .configuration := by
  unfold explicitEndpoints at failed
  split at failed
  · cases failed
  · cases failed
    rfl

theorem kind_of_discoveredEndpoints {allowHttp : Bool} {issuer : Text} {metadata : ProviderMetadata}
    (failed : discoveredEndpoints allowHttp issuer metadata = .error failure) : failure.kind = .discovery := by
  unfold discoveredEndpoints at failed
  split at failed
  · cases failed
  · cases failed
    rfl

theorem kind_of_configOf {ground : Ground} {issuer : Option Text} {endpoints : Endpoints}
    (failed : configOf s ground issuer endpoints = .error failure) : failure.kind = .validation := by
  unfold configOf at failed
  dsimp only at failed
  split at failed
  · cases failed
  · cases failed
    rfl

-- How a resolution ends with a failure of another class, by what was asked before.
inductive Escapes (s : Settings) (given : Option HttpClient) : List NetExchange → Kind → Prop
  | fetch {ground : Ground} {issuer : Text} {client : HttpClient} {asked trace : List NetExchange}
      {fault : Http.FetchFault} (checked : checkGround s = .ok ground) (named : s.issuerUrl = some issuer)
      (accepts : Accepts s.unsafeLocalDev issuer) (attends : Attends (policyOf s) given client asked trace)
      (escapes : FetchEscapes client "GET" (Discovery.url issuer) [("Accept", "application/json")] [] asked fault) :
      Escapes s given trace fault.kind
  | clientId {ground : Ground} {trace : List NetExchange} {ends : Option Text × Endpoints}
      (checked : checkGround s = .ok ground) (source : Source s given trace (.ok ends))
      (surrogate : ¬ ground.clientId.IsScalar) : Escapes s given trace .validation

inductive Classified (s : Settings) : Except Failure ProviderConfig → Prop
  | config (config : ProviderConfig) : Classified s (.ok config)
  | setting {failure : Failure} (kind : failure.kind = .configuration) : Classified s (.error failure)
  | discovery {failure : Failure} (kind : failure.kind = .discovery) (named : isSet s.issuerUrl = true) :
      Classified s (.error failure)

theorem Escapes.kind_cases (escapes : Escapes s given trace kind) :
    kind = .invalidUrl ∨ kind = .recursion ∨ kind = .validation := by
  cases escapes with
  | fetch _ _ _ _ escapes =>
    rcases escapes.leaks.kind with invalid | deep
    · exact .inl invalid
    · exact .inr (.inl deep)
  | clientId _ _ _ => exact .inr (.inr rfl)

theorem Classified.not_escapes {failure : Failure} (classified : Classified s (.error failure)) :
    ¬ Escapes s given trace failure.kind := by
  intro escapes
  cases classified with
  | setting kind =>
    rw [kind] at escapes
    rcases escapes.kind_cases with impossible | impossible | impossible <;> cases impossible
  | discovery kind named =>
    rw [kind] at escapes
    rcases escapes.kind_cases with impossible | impossible | impossible <;> cases impossible

theorem isSet_of_accepts {issuer : Text} {allowHttp : Bool} (named : s.issuerUrl = some issuer)
    (accepts : Accepts allowHttp issuer) : isSet s.issuerUrl = true := by
  obtain ⟨c, rest, rfl⟩ := List.exists_cons_of_ne_nil accepts.ne_nil
  rw [named]
  rfl

theorem Source.failed {ground : Ground} {found : Except Failure (Option Text × Endpoints)}
    (checked : checkGround s = .ok ground) (source : Source s given trace found) (answers : NetAnswers trace)
    (same : found = .error failure) : Classified s (.error failure) ∨ Escapes s given trace failure.kind := by
  cases source with
  | settings unnamed =>
    cases explicit : explicitEndpoints s with
    | error fault =>
      rw [explicit] at same
      cases same
      exact .inl (.setting (kind_of_explicitEndpoints explicit))
    | ok endpoints =>
      rw [explicit] at same
      cases same
  | refused named full refused =>
    cases same
    exact .inl (.setting rfl)
  | @issuer issuer _ metadata named accepts discovered =>
    have set := isSet_of_accepts named accepts
    cases metadata with
    | error fault =>
      cases same
      obtain ⟨client, asked, attends, left⟩ := leaves_discoverWith.1 discovered
      obtain ⟨fetched, fetch, told⟩ := Discovery.leaves_discover.1 left
      have usual : NetAnswers asked := fun client request r member => answers client request r (attends.mem member)
      rcases (Discovery.settles issuer).kind_of_failed usual fetch told.symm with own | ⟨fault, escapes, rfl⟩
      · exact .inl (.discovery own set)
      · exact .inr (.fetch checked named accepts attends escapes)
    | ok metadata =>
      have mapped : (discoveredEndpoints s.unsafeLocalDev issuer metadata).map _ = .error failure := same
      cases ends : discoveredEndpoints s.unsafeLocalDev issuer metadata with
      | error fault =>
        rw [ends] at mapped
        cases mapped
        exact .inl (.discovery (kind_of_discoveredEndpoints ends) set)
      | ok endpoints =>
        rw [ends] at mapped
        cases mapped

theorem Course.classified {result : Except Failure ProviderConfig} (course : Course s given trace result)
    (answers : NetAnswers trace) : Classified s result ∨ ∃ kind, Escapes s given trace kind := by
  cases course with
  | incomplete checked => exact .inl (.setting rfl)
  | @complete ground _ found checked source =>
    cases found with
    | error failure =>
      rcases source.failed checked answers rfl with classified | escapes
      · exact .inl classified
      · exact .inr ⟨_, escapes⟩
    | ok ends =>
      by_cases scalar : ground.clientId.IsScalar
      · have named := (checkGround_eq_ok.1 checked).named
        left
        change Classified s (configOf s ground ends.1 ends.2)
        rw [configOf_eq_ok.2 ⟨⟨scalar, named⟩, rfl⟩]
        exact .config _
      · exact .inr ⟨_, .clientId checked source scalar⟩

theorem Escapes.fails (escapes : Escapes s given trace kind) (answers : NetAnswers trace) :
    ∃ failure, Leaves NetEffect.isAct (resolve s given) trace (.error failure) ∧ failure.kind = kind := by
  cases escapes with
  | @fetch ground issuer client asked _ fault checked named accepts attends escapes =>
    have usual : NetAnswers asked := fun client request r member => answers client request r (attends.mem member)
    obtain ⟨fetched, left, passed⟩ := escapes.settled (Discovery.settles issuer) usual
    have discovered := leaves_discoverWith.2 ⟨_, _, attends, Discovery.leaves_discover.2 ⟨_, left, passed.symm⟩⟩
    exact ⟨.fetch fault, leaves_resolve.2 (.complete checked (.issuer named accepts discovered)), rfl⟩
  | @clientId ground _ ends checked source surrogate =>
    cases made : configOf s ground ends.1 ends.2 with
    | error failure =>
      have course := Course.complete checked source
      change Course s given trace (configOf s ground ends.1 ends.2) at course
      rw [made] at course
      exact ⟨failure, leaves_resolve.2 course, kind_of_configOf made⟩
    | ok config => exact absurd (configOf_eq_ok.1 made).1.1 surrogate

-- If the network fails as a network, a resolution ends as is told beforehand exactly if nothing escapes.
theorem resolution_classified_iff {history : List NetExchange} {result : Except Failure ProviderConfig}
    (runs : Runs (resolve s given) history result) (answers : NetAnswers history) :
    (Classified s result ↔ ∀ kind, ¬ Escapes s given (traceOf NetEffect.isAct history) kind)
      ∧ ∀ kind, Escapes s given (traceOf NetEffect.isAct history) kind →
          (∃ failure, result = .error failure ∧ failure.kind = kind)
            ∧ (kind = .invalidUrl ∨ kind = .recursion ∨ kind = .validation) := by
  have usual := netAnswers_traceOf.2 answers
  have escaped : ∀ kind, Escapes s given (traceOf NetEffect.isAct history) kind →
      ∃ failure, result = .error failure ∧ failure.kind = kind := by
    intro kind escapes
    obtain ⟨failure, left, same⟩ := escapes.fails usual
    exact ⟨failure, NetProgram.unique_trace runs.leaves left, same⟩
  refine ⟨⟨?_, ?_⟩, fun kind escapes => ⟨escaped kind escapes, escapes.kind_cases⟩⟩
  · intro classified kind escapes
    obtain ⟨failure, rfl, rfl⟩ := escaped kind escapes
    exact classified.not_escapes escapes
  · intro nothing
    rcases (leaves_resolve.1 runs.leaves).classified usual with classified | ⟨kind, escapes⟩
    · exact classified
    · exact absurd escapes (nothing kind)

theorem resolution_classified_iff_of_unreachable :
    ∃ (history : List NetExchange) (failure : Failure),
      Runs (resolve (Sample.issuerSettings Sample.issuer) (some .given)) history (.error failure)
        ∧ NetAnswers history
        ∧ failure.kind = .discovery
        ∧ ∀ kind, ¬ Escapes (Sample.issuerSettings Sample.issuer) (some .given)
            (traceOf NetEffect.isAct history) kind := by
  let down : Raised := ⟨.network "ConnectTimeout", "down"⟩
  have discovered : Leaves NetEffect.isAct (Discovery.discover Sample.issuer .given)
      [⟨.send .given Sample.metadataRequest, .raised down⟩] (.error _) :=
    Discovery.leaves_discover.2
      ⟨_, NetProgram.leaves_fetch.2 (.inr ⟨_, _, Sample.prepare_metadataRequest, rfl, rfl⟩), rfl⟩
  obtain ⟨history, runs, trace⟩ := Sample.leaves_resolve_issuer discovered
  have answers : NetAnswers history := by
    rw [← netAnswers_traceOf, trace]
    intro client request r member
    cases List.mem_singleton.1 member
    rfl
  refine ⟨history, _, runs, answers, rfl, ?_⟩
  exact (resolution_classified_iff runs answers).1.1 (.discovery rfl rfl)

end Resolution

namespace Sample

def unrouted : Text := "https://idp.example.com:x"

theorem load_unrouted : Settings.load (issuerKeywords unrouted) [] = .ok (issuerSettings unrouted) := by
  unfold issuerKeywords issuerSettings settings config unrouted
  repeat rw [Text.ofString_ofList]
  exact except_eq_ok_of_toOption (by decide +kernel)

end Sample

namespace Resolution

-- No request can be sent to where its document is, and the failure is of neither class.
theorem failure_escapes_of_unrouted_issuer :
    ∃ (history : List NetExchange) (failure : Failure),
      Settings.load (Sample.issuerKeywords Sample.unrouted) [] = .ok (Sample.issuerSettings Sample.unrouted)
        ∧ Runs (resolve (Sample.issuerSettings Sample.unrouted) (some .given)) history (.error failure)
        ∧ NetAnswers history
        ∧ failure.kind = .invalidUrl := by
  have accepts : Accepts false Sample.unrouted := by decide +kernel
  have refused : RequestUrl.forRequest (Discovery.url Sample.unrouted) = .error (.port "x") := by decide +kernel
  have unanswered : NetAnswers [] := fun _ _ _ impossible => absurd impossible List.not_mem_nil
  have escapes : Escapes (Sample.issuerSettings Sample.unrouted) (some .given) [] .invalidUrl :=
    .fetch (Sample.checkGround_issuerSettings Sample.unrouted) rfl accepts (.given .given [])
      (.place refused fun _ impossible => by cases impossible)
  obtain ⟨failure, ⟨history, runs, trace⟩, kind⟩ := escapes.fails unanswered
  refine ⟨history, failure, Sample.load_unrouted, runs, ?_, kind⟩
  rw [← netAnswers_traceOf, trace]
  exact unanswered

end Resolution

end OidcLogin
