import OidcLogin.Proofs.Provider.Resolution

namespace OidcLogin

open Program

-- What is asked by a client, as it is seen from outside: a client that is not handed in is opened before and
-- closed afterwards.
inductive Attends (policy : ClientPolicy) :
    Option HttpClient → HttpClient → List NetExchange → List NetExchange → Prop
  | given (client : HttpClient) (asked : List NetExchange) : Attends policy (some client) client asked asked
  | own (client : HttpClient) (asked : List NetExchange) :
      Attends policy none client asked
        (⟨.openClient policy, client⟩ :: (asked ++ [⟨.closeClient client, ()⟩]))

namespace Discovery

theorem ofResponse_eq_ok {target : Text} {response : Http.Response} {document : Json}
    {metadata : ProviderMetadata} :
    ofResponse target response document = .ok metadata
      ↔ response.isSuccess = true
        ∧ ∃ members, document = .object members ∧ ProviderMetadata.read members = .ok metadata := by
  unfold ofResponse
  cases success : response.isSuccess with
  | false => simp
  | true =>
    cases document with
    | object members =>
      rw [Bool.not_true, if_neg Bool.false_ne_true]
      cases told : ProviderMetadata.read members with
      | ok read => simp [told, Checked.toExcept]
      | refused violations => simp [told, Checked.toExcept]
    | null | bool _ | int _ | float _ | text _ | list _ => simp

theorem ofFetch_eq_ok {issuer : Text} {fetched : Except Http.FetchFault (Http.Response × Json)}
    {metadata : ProviderMetadata} :
    ofFetch issuer fetched = .ok metadata
      ↔ ∃ response document, fetched = .ok (response, document)
        ∧ ofResponse (url issuer) response document = .ok metadata
        ∧ withoutSlashes metadata.issuer = withoutSlashes issuer := by
  cases fetched with
  | error fault =>
    by_cases network : fault.isNetwork
    · simp [ofFetch, network]
    · by_cases value : fault.isValue
      · simp [ofFetch, network, value]
      · simp [ofFetch, network, value]
  | ok answer =>
    obtain ⟨response, document⟩ := answer
    unfold ofFetch
    constructor
    · intro made
      dsimp only at made
      split at made
      · cases made
      · rename_i read accepted
        split at made
        · rename_i same
          cases made
          exact ⟨response, document, rfl, accepted, same⟩
        · cases made
    · intro given
      obtain ⟨_, _, same, accepted, declared⟩ := given
      cases same
      dsimp only
      rw [accepted]
      exact if_pos declared

theorem leaves_discover {issuer : Text} {client : HttpClient} {trace : List NetExchange}
    {result : Except Failure ProviderMetadata} :
    Leaves NetEffect.isAct (discover issuer client) trace result
      ↔ ∃ fetched,
          Leaves NetEffect.isAct
            (NetProgram.fetch client "GET" (url issuer) [("Accept", "application/json")] []) trace fetched
          ∧ result = ofFetch issuer fetched := by
  unfold discover
  refine (leaves_silent_bind fun _ _ => NetProgram.leaves_noteAll).trans (leaves_quiet_bind ?_)
  intro fetched trace result
  cases ofFetch issuer fetched with
  | error failure => exact NetProgram.leaves_noteAll_pure
  | ok metadata =>
    refine (leaves_silent_bind fun _ _ => NetProgram.leaves_note).trans ?_
    exact (leaves_silent_bind fun _ _ => NetProgram.leaves_note).trans leaves_pure

end Discovery

namespace Resolution

variable {s : Settings} {given : Option HttpClient} {trace : List NetExchange}
  {result : Except Failure ProviderConfig}

def policyOf (s : Settings) : ClientPolicy := ⟨s.httpTimeout, s.restrictPrivateNetworks⟩

theorem leaves_discoverWith {issuer : Text} {metadata : Except Failure ProviderMetadata} :
    Leaves NetEffect.isAct (discoverWith s issuer given) trace metadata
      ↔ ∃ client asked, Attends (policyOf s) given client asked trace
          ∧ Leaves NetEffect.isAct (Discovery.discover issuer client) asked metadata := by
  cases given with
  | some client =>
    constructor
    · intro left
      exact ⟨client, trace, .given client trace, left⟩
    · intro attended
      obtain ⟨_, _, attends, left⟩ := attended
      cases attends
      exact left
  | none =>
    unfold discoverWith
    rw [leaves_kept rfl]
    constructor
    · intro opened
      obtain ⟨client, rest, rfl, after⟩ := opened
      obtain ⟨asked, value, closing, rfl, left, closed⟩ := leaves_bind.1 after
      obtain ⟨_, _, rfl, finished⟩ := (leaves_kept rfl).1 closed
      obtain ⟨rfl, rfl⟩ := leaves_done.1 finished
      exact ⟨client, asked, .own client asked, left⟩
    · intro attended
      obtain ⟨client, asked, attends, left⟩ := attended
      cases attends
      refine ⟨client, _, rfl, leaves_bind.2 ⟨asked, metadata, _, rfl, left, ?_⟩⟩
      exact .asked rfl (.finished metadata)

-- Where the endpoints come from, and what was asked for them.
inductive Source (s : Settings) (given : Option HttpClient) :
    List NetExchange → Except Failure (Option Text × Endpoints) → Prop
  | settings (unnamed : isSet s.issuerUrl = false) : Source s given [] ((explicitEndpoints s).map (none, ·))
  | refused {issuer : Text} {fault : SettingFault} (named : s.issuerUrl = some issuer) (full : issuer ≠ [])
      (refused : checkEndpoint "issuer_url" (some issuer) s.unsafeLocalDev = .error fault) :
      Source s given [] (.error (.setting fault))
  | issuer {issuer : Text} {trace : List NetExchange} {metadata : Except Failure ProviderMetadata}
      (named : s.issuerUrl = some issuer) (accepts : Accepts s.unsafeLocalDev issuer)
      (discovered : Leaves NetEffect.isAct (discoverWith s issuer given) trace metadata) :
      Source s given trace
        (metadata >>= fun m => (discoveredEndpoints s.unsafeLocalDev issuer m).map (some issuer, ·))

theorem leaves_discovered {allowHttp : Bool} {issuer : Text} (metadata : Except Failure ProviderMetadata)
    (trace : List NetExchange) (found : Except Failure (Option Text × Endpoints)) :
    Leaves NetEffect.isAct
        (match metadata with
          | .error failure => pure (.error failure)
          | .ok m => pure ((discoveredEndpoints allowHttp issuer m).map (some issuer, ·)) :
          NetProgram (Except Failure (Option Text × Endpoints))) trace found
      ↔ trace = [] ∧ found = metadata >>= fun m => (discoveredEndpoints allowHttp issuer m).map (some issuer, ·) := by
  cases metadata with
  | error failure => exact leaves_pure
  | ok m => exact leaves_pure

theorem leaves_endpointsOf_of_accepted {issuer : Text} (named : s.issuerUrl = some issuer)
    (accepts : Accepts s.unsafeLocalDev issuer) {found : Except Failure (Option Text × Endpoints)} :
    Leaves NetEffect.isAct (endpointsOf s given) trace found
      ↔ ∃ metadata, Leaves NetEffect.isAct (discoverWith s issuer given) trace metadata
          ∧ found = metadata >>= fun m =>
            (discoveredEndpoints s.unsafeLocalDev issuer m).map (some issuer, ·) := by
  obtain ⟨c, rest, rfl⟩ := List.exists_cons_of_ne_nil accepts.ne_nil
  unfold endpointsOf
  rw [named]
  dsimp only
  rw [checkEndpoint_eq_ok.2 ⟨rfl, accepts⟩]
  dsimp only
  split
  · exact (leaves_silent_bind fun _ _ => NetProgram.leaves_note).trans (leaves_quiet_bind leaves_discovered)
  · exact leaves_quiet_bind leaves_discovered

theorem leaves_endpointsOf {found : Except Failure (Option Text × Endpoints)} :
    Leaves NetEffect.isAct (endpointsOf s given) trace found ↔ Source s given trace found := by
  constructor
  · intro left
    cases named : s.issuerUrl with
    | none =>
      rw [endpointsOf, named] at left
      obtain ⟨rfl, rfl⟩ := leaves_done.1 left
      exact .settings (by rw [named]; rfl)
    | some issuer =>
      cases issuer with
      | nil =>
        rw [endpointsOf, named] at left
        obtain ⟨rfl, rfl⟩ := leaves_done.1 left
        exact .settings (by rw [named]; rfl)
      | cons c rest =>
        cases checked : checkEndpoint "issuer_url" (some (c :: rest)) s.unsafeLocalDev with
        | error fault =>
          rw [endpointsOf, named] at left
          dsimp only at left
          rw [checked] at left
          obtain ⟨rfl, rfl⟩ := leaves_done.1 left
          exact .refused named (List.cons_ne_nil c rest) checked
        | ok same =>
          obtain ⟨_, accepts⟩ := checkEndpoint_eq_ok.1 checked
          cases (checkEndpoint_eq_ok.1 checked).1
          obtain ⟨metadata, discovered, rfl⟩ := (leaves_endpointsOf_of_accepted named accepts).1 left
          exact .issuer named accepts discovered
  · intro source
    cases source with
    | settings unnamed =>
      unfold endpointsOf
      split
      · exact .finished _
      · exact .finished _
      · rename_i issuer full named
        rw [named] at unnamed
        cases issuer with
        | nil => exact absurd rfl full
        | cons c rest => cases unnamed
    | refused named full refused =>
      obtain ⟨c, rest, rfl⟩ := List.exists_cons_of_ne_nil full
      rw [endpointsOf, named]
      dsimp only
      rw [refused]
      exact .finished _
    | issuer named accepts discovered =>
      exact (leaves_endpointsOf_of_accepted named accepts).2 ⟨_, discovered, rfl⟩

inductive Course (s : Settings) (given : Option HttpClient) :
    List NetExchange → Except Failure ProviderConfig → Prop
  | incomplete {fault : SettingFault} (checked : checkGround s = .error fault) :
      Course s given [] (.error (.setting fault))
  | complete {ground : Ground} {trace : List NetExchange} {found : Except Failure (Option Text × Endpoints)}
      (checked : checkGround s = .ok ground) (source : Source s given trace found) :
      Course s given trace (found >>= fun ends => configOf s ground ends.1 ends.2)

theorem leaves_resolve : Leaves NetEffect.isAct (resolve s given) trace result ↔ Course s given trace result := by
  cases checked : checkGround s with
  | error fault =>
    unfold resolve
    rw [checked]
    constructor
    · intro left
      obtain ⟨rfl, rfl⟩ := leaves_done.1 left
      exact .incomplete checked
    · intro course
      cases course with
      | incomplete again =>
        cases checked.symm.trans again
        exact .finished _
      | complete again source => cases checked.symm.trans again
  | ok ground =>
    have made : Leaves NetEffect.isAct (resolve s given) trace result
        ↔ ∃ found, Leaves NetEffect.isAct (endpointsOf s given) trace found
            ∧ result = found >>= fun ends => configOf s ground ends.1 ends.2 := by
      unfold resolve
      rw [checked]
      refine leaves_quiet_bind fun found trace result => ?_
      cases found with
      | error failure => exact leaves_pure
      | ok ends =>
        obtain ⟨issuer, endpoints⟩ := ends
        change _ ↔ trace = [] ∧ result = configOf s ground issuer endpoints
        dsimp only
        cases configOf s ground issuer endpoints with
        | error failure => exact leaves_pure
        | ok config => exact (leaves_silent_bind fun _ _ => NetProgram.leaves_note).trans leaves_pure
    rw [made]
    constructor
    · intro given
      obtain ⟨found, left, rfl⟩ := given
      exact .complete checked (leaves_endpointsOf.1 left)
    · intro course
      cases course with
      | incomplete again => cases checked.symm.trans again
      | complete again source =>
        cases checked.symm.trans again
        exact ⟨_, leaves_endpointsOf.2 source, rfl⟩

end Resolution

end OidcLogin
