import OidcLogin.Proofs.Callback.WithClient
import OidcLogin.Proofs.Identity.Mapping

namespace OidcLogin

open Program

variable {User : Type}

-- What the steps of a callback hand on to one another; there may be no user to hand on.
structure Passage (User : Type) where
  code : Text
  token : TokenResponse
  claims : Members
  identity : UserIdentity
  user : Option User

def userEffects (request : CallbackRequest) : Option User → List (CallbackEffect User)
  | none => []
  | some user => [.establish request user, .audit request user]

def Passage.effects (p : Passage User) (redirectUri : Text) (request : CallbackRequest) :
    List (CallbackEffect User) :=
  .exchangeCode p.code redirectUri
    :: .fetchUserInfo p.token.accessToken
    :: .login p.identity.email p.identity.displayName p.identity.isAdministrator
    :: userEffects request p.user

def failureOf : CallbackExchange User → Option Failure
  | ⟨.exchangeCode .., .error failure⟩ | ⟨.fetchUserInfo _, .error failure⟩
  | ⟨.login .., .error failure⟩ | ⟨.establish .., .error failure⟩
  | ⟨.audit .., .error failure⟩ => some failure
  | _ => none

-- What a callback ends with: the failure of its last act, of the query or of the claims that were given;
-- or everything was done.
inductive Ended (h : CallbackHandler) (query : Text) (expected : Option Text) :
    List (CallbackExchange User) → Except Failure Text → Prop
  | failed (earlier : List (CallbackExchange User)) (last : CallbackExchange User) {failure : Failure}
      (told : failureOf last = some failure) :
      Ended h query expected (earlier ++ [last]) (.error failure)
  | unread {failure : Failure} (read : Callback.parse query expected = .error failure) :
      Ended h query expected [] (.error failure)
  | refused (exchanged : CallbackExchange User) (accessToken : Text) {claims : Members}
      {failure : Failure} (mapped : (h.mapper.mapClaims claims).2 = .error failure) :
      Ended h query expected [exchanged, ⟨.fetchUserInfo accessToken, .ok claims⟩] (.error failure)
  | done {acts : List (CallbackExchange User)} (all : acts.length = 5)
      (well : ∀ act ∈ acts, failureOf act = none) : Ended h query expected acts h.successUrl

-- The passage explains what was done: a prefix of its effects, each after an answer of the step before
-- that handed this on, up to the first failure.
structure Passage.Explains (p : Passage User) (h : CallbackHandler) (query : Text)
    (request : CallbackRequest) (expected : Option Text) (acts : List (CallbackExchange User))
    (result : Except Failure Text) : Prop where
  order : acts.map (·.1) <+: p.effects (h.redirectUri request) request
  parsed : 0 < acts.length → Callback.parse query expected = .ok p.code
  exchanged : 1 < acts.length →
    acts[0]? = some ⟨.exchangeCode p.code (h.redirectUri request), .ok p.token⟩
  fetched : 2 < acts.length → acts[1]? = some ⟨.fetchUserInfo p.token.accessToken, .ok p.claims⟩
  mapped : 2 < acts.length → (h.mapper.mapClaims p.claims).2 = .ok p.identity
  loggedIn : 3 < acts.length → ∃ user, p.user = some user ∧ acts[2]? = some
    ⟨.login p.identity.email p.identity.displayName p.identity.isAdministrator, .ok user⟩
  established : 4 < acts.length → ∃ user, p.user = some user
    ∧ acts[3]? = some ⟨.establish request user, .ok ()⟩
  ended : Ended h query expected acts result

namespace CallbackHandler

variable {h : CallbackHandler} {query : Text} {request : CallbackRequest} {expected : Option Text}

theorem TakesOver.explained {read : Text} (parsed : Callback.parse query expected = .ok read)
    (token : TokenResponse) {claims : Members} {identity : UserIdentity}
    (mapped : (h.mapper.mapClaims claims).2 = .ok identity)
    {acts : List (CallbackExchange User)} {outcome : Except Failure Unit}
    (taken : TakesOver request identity acts outcome) :
    ∃ user : Option User, Passage.Explains ⟨read, token, claims, identity, user⟩ h query request expected
      (⟨.exchangeCode read (h.redirectUri request), .ok token⟩
        :: ⟨.fetchUserInfo token.accessToken, .ok claims⟩ :: acts)
      (outcome.bind fun () => h.successUrl) := by
  cases taken with
  | unknown failure =>
    refine ⟨none, ?_, fun _ => parsed, fun _ => rfl, fun _ => rfl, fun _ => mapped, ?_, ?_, ?_⟩
    · exact ⟨[], rfl⟩
    · simp
    · simp
    · exact .failed [_, _] _ rfl
  | unbound user failure =>
    refine ⟨some user, ?_, fun _ => parsed, fun _ => rfl, fun _ => rfl, fun _ => mapped,
      fun _ => ⟨user, rfl, rfl⟩, ?_, ?_⟩
    · exact ⟨[_], rfl⟩
    · simp
    · exact .failed [_, _, _] _ rfl
  | unrecorded user failure =>
    refine ⟨some user, ?_, fun _ => parsed, fun _ => rfl, fun _ => rfl, fun _ => mapped,
      fun _ => ⟨user, rfl, rfl⟩, fun _ => ⟨user, rfl, rfl⟩, ?_⟩
    · exact ⟨[], rfl⟩
    · exact .failed [_, _, _, _] _ rfl
  | taken user =>
    refine ⟨some user, ?_, fun _ => parsed, fun _ => rfl, fun _ => rfl, fun _ => mapped,
      fun _ => ⟨user, rfl, rfl⟩, fun _ => ⟨user, rfl, rfl⟩, ?_⟩
    · exact ⟨[], rfl⟩
    · exact .done rfl (by simp [failureOf])

theorem Course.explained {acts : List (CallbackExchange User)}
    {outcome : Except Failure Unit} (course : Course h query request expected acts outcome) :
    ∃ p : Passage User,
      p.Explains h query request expected acts (outcome.bind fun () => h.successUrl) := by
  -- where the course ends early, nothing depends on the values that were not reached
  let noToken : TokenResponse := ⟨[], [], none, none, none, none⟩
  let noIdentity : UserIdentity := ⟨[], [], [], false⟩
  cases course with
  | @unread failure read =>
    refine ⟨⟨[], noToken, [], noIdentity, none⟩, ⟨_, rfl⟩, ?_, ?_, ?_, ?_, ?_, ?_, .unread read⟩
    all_goals simp
  | @unexchanged code read failure =>
    refine ⟨⟨code, noToken, [], noIdentity, none⟩, ⟨_, rfl⟩, fun _ => read, ?_, ?_, ?_, ?_, ?_,
      .failed [] _ rfl⟩
    all_goals simp
  | @unfetched code read token failure =>
    refine ⟨⟨code, token, [], noIdentity, none⟩, ⟨_, rfl⟩, fun _ => read, fun _ => rfl, ?_, ?_, ?_, ?_,
      .failed [_] _ rfl⟩
    all_goals simp
  | @refused code read token claims failure mapped =>
    refine ⟨⟨code, token, claims, noIdentity, none⟩, ⟨_, rfl⟩, fun _ => read, fun _ => rfl,
      ?_, ?_, ?_, ?_, .refused _ _ mapped⟩
    all_goals simp
  | @admitted code read token claims identity mapped rest outcome after =>
    obtain ⟨user, explained⟩ := after.explained read token mapped
    exact ⟨_, explained⟩

-- Over the network each of the two first steps is one request at most.
theorem handle_effects {history : List (CallbackExchange User)}
    {result : Except Failure Text} (runs : Runs (h.handle query request expected) history result) :
    (∃ p : Passage User,
      p.Explains h query request expected (traceOf CallbackEffect.isAct history) result)
    ∧ ∀ client : HttpClient,
        (∀ code redirectUri sent outcome,
          Runs ((OidcClient.overHttp h.config client).exchangeCode code redirectUri) sent outcome →
            AtMostOneRequest client (traceOf NetEffect.isAct sent))
        ∧ ∀ accessToken sent outcome,
            Runs ((OidcClient.overHttp h.config client).fetchUserInfo accessToken) sent outcome →
              AtMostOneRequest client (traceOf NetEffect.isAct sent) := by
  constructor
  · obtain ⟨outcome, course, rfl⟩ := leaves_handle.1 runs.leaves
    exact course.explained
  · intro client
    constructor
    · intro code redirectUri sent outcome exchanged
      exact TokenExchange.leaves_exchange_atMostOne exchanged.leaves
    · intro accessToken sent outcome fetched
      exact UserInfo.leaves_fetch_atMostOne fetched.leaves

theorem handle_effects_of_login :
    ∃ (history : List (CallbackExchange Text)) (result : Except Failure Text),
      Runs (Sample.handler.handle "code=abc" Sample.request none) history result
        ∧ (traceOf CallbackEffect.isAct history).length = 5
        ∧ ∃ p : Passage Text, p.Explains Sample.handler "code=abc" Sample.request none
            (traceOf CallbackEffect.isAct history) result := by
  have taken : TakesOver Sample.request Sample.identity _ (.ok ()) := .taken ("al" : Text)
  have mapped : (Sample.handler.mapper.mapClaims Sample.claims).2 = .ok Sample.identity := Sample.mapClaims_claims
  obtain ⟨history, runs, acts⟩ :=
    leaves_handle.2 ⟨_, .admitted Sample.parse_code Sample.token mapped taken, rfl⟩
  exact ⟨history, _, runs, by rw [acts]; rfl, (handle_effects runs).1⟩

end CallbackHandler

end OidcLogin
