import OidcLogin.Manager.Basic
import OidcLogin.Proofs.Provider.Resolution
import OidcLogin.Proofs.Url.FormRoundTrip

namespace OidcLogin

open Program

theorem Form.noMark_of_encode {pairs : Form.Pairs} {query : Text} (written : Form.encode pairs = .ok query) :
    CodePoint.ofChar '#' ∉ query ∧ ∀ c ∈ query, Url.isRemoved c = false := by
  have free {mark : CodePoint} (bare : Form.isWritten mark = false) (other : mark ≠ CodePoint.ofChar '=')
      (another : mark ≠ CodePoint.ofChar '&') : mark ∉ query := by
    intro member
    rcases Form.mem_encode written member with isWritten | equals | ampersand
    · exact Form.ne_of_isWritten bare isWritten rfl
    · exact other equals
    · exact another ampersand
  refine ⟨free (by rfl) (by decide) (by decide), ?_⟩
  intro c member
  by_contra removed
  have isRemoved : Url.isRemoved c = true := by simpa using removed
  have which : c = '\t' ∨ c = '\r' ∨ c = '\n' := by simpa [Url.isRemoved, or_assoc] using isRemoved
  rcases which with rfl | rfl | rfl
  · exact free (by rfl) (by decide) (by decide) member
  · exact free (by rfl) (by decide) (by decide) member
  · exact free (by rfl) (by decide) (by decide) member

namespace Authorization

variable {config : ProviderConfig} {draws : List (Fin 62)}

theorem stateOf_ne_nil (some : draws ≠ []) : stateOf draws ≠ [] := by
  unfold stateOf
  rw [Ne, List.map_eq_nil_iff]
  exact some

theorem stateOf_vector_ne_nil (draws : Vector (Fin 62) stateLength) : stateOf draws.toList ≠ [] := by
  apply stateOf_ne_nil
  apply List.ne_nil_of_length_pos
  rw [Vector.length_toList]
  decide

theorem isScalar_stateOf : (stateOf draws).IsScalar := by
  intro c member
  obtain ⟨n, _, rfl⟩ := List.mem_map.1 member
  rw [List.getD_eq_getElem?_getD]
  cases found : stateAlphabet[n.val]? with
  | none => decide
  | some letter => exact Text.isScalar_ofString _ letter (List.mem_of_getElem? found)

def ordinaryScopes : List Text := ["openid", "profile", "email"]

theorem scopes_eq (config : ProviderConfig) :
    scopes config
      = ordinaryScopes
        ++ if config.adminGroup.isSome ∧ config.groupsClaimName ∉ ordinaryScopes then [config.groupsClaimName]
          else [] := by
  unfold scopes
  change (if config.adminGroup.isSome && !ordinaryScopes.contains config.groupsClaimName then
    ordinaryScopes ++ [config.groupsClaimName] else ordinaryScopes) = _
  by_cases asked : config.adminGroup.isSome ∧ config.groupsClaimName ∉ ordinaryScopes
  · rw [if_pos asked, if_pos (by simpa using asked)]
  · rw [if_neg asked, if_neg (by simpa using asked), List.append_nil]

theorem scopes_ne_nil (config : ProviderConfig) : scopes config ≠ [] := by
  rw [scopes_eq]
  exact List.cons_ne_nil _ _

theorem isScalar_scopes (scalar : config.groupsClaimName.IsScalar) : ∀ scope ∈ scopes config, scope.IsScalar := by
  have ordinary : ∀ scope ∈ ordinaryScopes, scope.IsScalar := by
    intro scope member
    simp only [ordinaryScopes, List.mem_cons, List.not_mem_nil, or_false] at member
    rcases member with rfl | rfl | rfl
    all_goals exact Text.isScalar_ofString _
  rw [scopes_eq]
  refine List.forall_mem_append.2 ⟨ordinary, ?_⟩
  split
  · exact List.forall_mem_cons.2 ⟨scalar, List.forall_mem_nil _⟩
  · exact List.forall_mem_nil _

theorem isScalar_join {mark : Text} {pieces : List Text} (between : mark.IsScalar)
    (scalar : ∀ piece ∈ pieces, piece.IsScalar) : (Text.join mark pieces).IsScalar := by
  intro c member
  rcases Text.mem_join member with inMark | ⟨piece, isPiece, inside⟩
  · exact between c inMark
  · exact scalar piece isPiece c inside

theorem given_of_ne_nil {name value : Text} (full : value ≠ []) : given name value = [(name, value)] := by
  unfold given
  rw [if_neg (by simpa using full)]

theorem parameters_eq (clientId : Text) {state redirectUri : Text} {scopes : List Text} (asks : scopes ≠ [])
    (drawn : state ≠ []) (called : redirectUri ≠ []) :
    parameters clientId scopes state redirectUri
      = ([("response_type", "code"), ("client_id", clientId), ("redirect_uri", redirectUri),
          ("scope", Text.join " " scopes), ("state", state)] : Form.Pairs) := by
  unfold parameters
  rw [given_of_ne_nil called, given_of_ne_nil drawn, if_neg (by simpa using asks)]
  rfl

theorem isScalar_parameters {clientId redirectUri scope state : Text} (client : clientId.IsScalar)
    (redirect : redirectUri.IsScalar) (asked : scope.IsScalar) (drawn : state.IsScalar) :
    ∀ pair ∈ ([("response_type", "code"), ("client_id", clientId), ("redirect_uri", redirectUri), ("scope", scope),
      ("state", state)] : Form.Pairs), pair.1.IsScalar ∧ pair.2.IsScalar := by
  simp only [List.forall_mem_cons, Text.isScalar_ofString, client, redirect, asked, drawn]
  simp

theorem url_eq_ok {endpoint clientId state redirectUri : Text} {scopes : List Text} {own : Url.Parts}
    (split : Url.split endpoint = .ok own) (isSplit : own.IsSplit) {query : Text}
    (written : Form.encode (Form.decode true own.query ++ parameters clientId scopes state redirectUri) = .ok query) :
    ∃ address, url endpoint clientId scopes state redirectUri = .ok address
      ∧ Url.split address = .ok { own with query := query } := by
  obtain ⟨noMark, kept⟩ := Form.noMark_of_encode written
  have rejoined : Url.Parts.IsSplit { own with query := query } :=
    isSplit.withQuery noMark fun c member =>
      member.elim (kept c) fun inFragment => isSplit.kept c (.inr (.inr (.inr (.inr inFragment))))
  refine ⟨_, ?_, rejoined.split_unsplit⟩
  unfold url
  rw [split]
  dsimp only
  rw [written]

end Authorization

namespace LoginManager

variable {User : Type} {m : LoginManager}

theorem runs_authorizationRequest {history : List (Exchange LoginEffect.Reply)}
    {result : Except Failure AuthorizationRequest}
    (runs : Runs (m.authorizationRequest : LoginProgram User _) history result) :
    ∃ draws : Vector (Fin 62) Authorization.stateLength,
      result = m.requestOf (Authorization.stateOf draws.toList) := by
  obtain ⟨draws, rest, _, after⟩ := runs_ask.1 runs
  exact ⟨draws, (runs_done.1 after).2⟩

-- Every request for a login is answered by an address that is read as the endpoint with the parameters of
-- the request after the pairs of its own query.
theorem authorizationRequest_reads_back {name endpoint : Text} {allowHttp : Bool}
    (overHttp : m.oidc = .overHttp m.config m.client)
    (accepted : checkEndpoint name (some m.config.authorizationEndpoint) allowHttp = .ok endpoint)
    (called : m.config.callbackUrl ≠ [])
    (scalar : ∀ text ∈ [m.config.authorizationEndpoint, m.config.clientId, m.config.callbackUrl,
      m.config.groupsClaimName], Text.IsScalar text)
    {history : List (Exchange LoginEffect.Reply)} {result : Except Failure AuthorizationRequest}
    (runs : Runs (m.authorizationRequest : LoginProgram User _) history result) :
    ∃ request own query,
      result = .ok request
        ∧ Url.split m.config.authorizationEndpoint = .ok own
        ∧ Url.split request.url = .ok { own with query := query }
        ∧ Form.decode true query
          = Form.decode true own.query
            ++ ([("response_type", "code"), ("client_id", m.config.clientId), ("redirect_uri", request.redirectUri),
                ("scope", Text.join " " request.scopes), ("state", request.state)] : Form.Pairs)
        ∧ request.redirectUri = m.config.callbackUrl
        ∧ request.scopes
          = Authorization.ordinaryScopes
            ++ if m.config.adminGroup.isSome ∧ m.config.groupsClaimName ∉ Authorization.ordinaryScopes then
              [m.config.groupsClaimName] else [] := by
  simp only [List.forall_mem_cons] at scalar
  obtain ⟨endpointScalar, clientIdScalar, callbackScalar, claimScalar, _⟩ := scalar
  obtain ⟨same, accepts⟩ := checkEndpoint_eq_ok.1 accepted
  cases same
  obtain ⟨own, split, isSplit⟩ := accepts.isSplit
  obtain ⟨draws, rfl⟩ := runs_authorizationRequest runs
  have drawn := Authorization.stateOf_vector_ne_nil draws
  have parameters := Authorization.parameters_eq m.config.clientId (Authorization.scopes_ne_nil m.config) drawn called
  have ownScalar : own.query.IsScalar := endpointScalar.of_subset fun c => Url.mem_of_mem_query isSplit.web split
  have pairsScalar : ∀ pair ∈ Form.decode true own.query ++ Authorization.parameters m.config.clientId
      (Authorization.scopes m.config) (Authorization.stateOf draws.toList) m.config.callbackUrl,
      pair.1.IsScalar ∧ pair.2.IsScalar := by
    rw [parameters]
    refine List.forall_mem_append.2 ⟨fun pair member => Form.isScalar_of_mem_decode ownScalar member, ?_⟩
    exact Authorization.isScalar_parameters clientIdScalar callbackScalar
      (Authorization.isScalar_join (Text.isScalar_ofString _) (Authorization.isScalar_scopes claimScalar))
      Authorization.isScalar_stateOf
  obtain ⟨query, written⟩ := Form.exists_encode.2 pairsScalar
  obtain ⟨address, made, readBack⟩ := Authorization.url_eq_ok split isSplit written
  refine ⟨⟨address, Authorization.stateOf draws.toList, Authorization.scopes m.config, m.config.callbackUrl,
    AuthorizationRequest.codeType⟩, own, query, ?_, split, readBack, ?_, rfl, Authorization.scopes_eq m.config⟩
  · unfold requestOf
    rw [overHttp]
    exact congrArg (Except.map _) made
  · rw [Form.decode_encode written, parameters]

theorem authorizationRequest_reads_back_of_own_query :
    let endpoint : Text := "https://idp.example.com/authorize;v=1?tenant=a%2Fb&hint=#top"
    let config := { Sample.config with authorizationEndpoint := endpoint }
    let client : HttpClient := .given
    let m : LoginManager := ⟨config, client, false, .overHttp config client⟩
    ∃ (history : List (Exchange (LoginEffect.Reply : LoginEffect Text → Type))) (request : AuthorizationRequest)
        (own : Url.Parts) (query : Text),
      Runs m.authorizationRequest history (.ok request)
        ∧ Url.split endpoint = .ok own
        ∧ Url.split request.url = .ok { own with query := query }
        ∧ Form.decode true query
          = Form.decode true own.query
            ++ ([("response_type", "code"), ("client_id", config.clientId), ("redirect_uri", config.callbackUrl),
                ("scope", Text.join " " request.scopes), ("state", request.state)] : Form.Pairs) := by
  intro endpoint config client m
  have accepted : checkEndpoint "auth_url" (some endpoint) false = .ok endpoint := by
    refine checkEndpoint_eq_ok.2 ⟨rfl, ?_⟩
    unfold endpoint
    rw [Text.ofString_ofList]
    decide +kernel
  let draws : Vector (Fin 62) Authorization.stateLength := Vector.replicate _ 0
  have runs : Runs (m.authorizationRequest : LoginProgram Text _) [⟨.draw Authorization.stateLength, draws⟩]
      (m.requestOf (Authorization.stateOf draws.toList)) := .ask _ _ _ _ _ (.done _)
  have scalar : ∀ text ∈ [m.config.authorizationEndpoint, m.config.clientId, m.config.callbackUrl,
      m.config.groupsClaimName], Text.IsScalar text := by
    simp only [List.forall_mem_cons]
    exact ⟨Text.isScalar_ofString _, Text.isScalar_ofString _, Text.isScalar_ofString _, Text.isScalar_ofString _,
      List.forall_mem_nil _⟩
  obtain ⟨request, own, query, made, split, readBack, pairs, redirect, _⟩ :=
    authorizationRequest_reads_back rfl accepted (by decide) scalar runs
  rw [redirect] at pairs
  exact ⟨_, request, own, query, made ▸ runs, split, readBack, pairs⟩

end LoginManager

end OidcLogin
