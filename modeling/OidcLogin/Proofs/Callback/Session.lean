import OidcLogin.Proofs.Callback.WithClient
import OidcLogin.Proofs.Identity.Mapping
import OidcLogin.Proofs.Provider.Resolution

namespace OidcLogin

open Program

section Reference

variable {scheme : Text} {origin : Url.Parts} {base : Text}

def successParts (scheme : Text) : Url.Parts := ⟨scheme, [], [], [], "openid=success", []⟩

theorem splitAs_successReference (web : scheme = "https" ∨ scheme = "http") :
    Url.splitAs scheme CallbackHandler.successReference = .ok (successParts scheme) := by
  rcases web with rfl | rfl
  · exact except_eq_ok_of_toOption (by decide +kernel)
  · exact except_eq_ok_of_toOption (by decide +kernel)

theorem resolve_successReference (full : base ≠ []) (split : Url.split base = .ok origin)
    (web : origin.scheme = "https" ∨ origin.scheme = "http") :
    Url.resolve base CallbackHandler.successReference
      = .ok (Url.unsplit { origin with query := "openid=success", fragment := [] }) := by
  have relatives : origin.scheme ∈ Url.schemesWithRelatives := by
    rcases web with https | http
    · rw [https]; decide
    · rw [http]; decide
  have given : CallbackHandler.successReference ≠ [] := by decide
  have asked : Text.ofString "openid=success" ≠ [] := by decide
  have notEmpty : base.isEmpty = false := by simpa using full
  unfold Url.resolve
  rw [notEmpty, if_neg Bool.false_ne_true, split]
  dsimp only
  rw [splitAs_successReference web]
  simp [successParts, Url.Parts.within, relatives, given, asked]

end Reference

theorem Accepts.successUrl {allowHttp : Bool} {h : CallbackHandler}
    (accepts : Accepts allowHttp h.config.baseUrl) :
    ∃ parts, Url.split h.config.baseUrl = .ok parts
      ∧ h.successUrl = .ok (Url.unsplit { parts with query := "openid=success", fragment := [] }) := by
  have full := accepts.ne_nil
  obtain ⟨parts, split, accepted⟩ := accepts
  refine ⟨parts, split, ?_⟩
  unfold CallbackHandler.successUrl
  rw [resolve_successReference full split (accepted.scheme.imp_right And.left)]

namespace CallbackHandler

variable {User : Type} {h : CallbackHandler} {query : Text} {request : CallbackRequest}
  {expected : Option Text}

-- A session was bound.
def Bound (history : List (CallbackExchange User)) : Prop :=
  ∃ request user, ⟨.establish request user, .ok ()⟩ ∈ history

-- The login could not be recorded, for this failure.
def Unrecorded (history : List (CallbackExchange User)) (failure : Failure) : Prop :=
  ∃ request user, ⟨.audit request user, .error failure⟩ ∈ history

theorem bound_traceOf {history : List (CallbackExchange User)} :
    Bound (traceOf CallbackEffect.isAct history) ↔ Bound history := by
  constructor
  · intro bound
    obtain ⟨request, user, member⟩ := bound
    exact ⟨request, user, (mem_traceOf.1 member).1⟩
  · intro bound
    obtain ⟨request, user, member⟩ := bound
    exact ⟨request, user, mem_traceOf.2 ⟨member, rfl⟩⟩

theorem unrecorded_traceOf {history : List (CallbackExchange User)} {failure : Failure} :
    Unrecorded (traceOf CallbackEffect.isAct history) failure ↔ Unrecorded history failure := by
  constructor
  · intro unrecorded
    obtain ⟨request, user, member⟩ := unrecorded
    exact ⟨request, user, (mem_traceOf.1 member).1⟩
  · intro unrecorded
    obtain ⟨request, user, member⟩ := unrecorded
    exact ⟨request, user, mem_traceOf.2 ⟨member, rfl⟩⟩

-- What is left of a course: a session and no complaint, a session and a complaint about the record, or
-- neither.
theorem Course.session {acts : List (CallbackExchange User)} {outcome : Except Failure Unit}
    (course : Course h query request expected acts outcome) :
    (Bound acts ↔ outcome = .ok () ∨ ∃ failure, outcome = .error failure ∧ Unrecorded acts failure)
      ∧ ∀ failure, Unrecorded acts failure → outcome = .error failure := by
  cases course with
  | unread read => simp [Bound, Unrecorded]
  | unexchanged read failure => simp [Bound, Unrecorded]
  | unfetched read token failure => simp [Bound, Unrecorded]
  | refused read token mapped => simp [Bound, Unrecorded]
  | admitted read token mapped after =>
    cases after with
    | unknown failure => simp [Bound, Unrecorded]
    | unbound user failure => simp [Bound, Unrecorded]
    | unrecorded user failure => simp [Bound, Unrecorded]
    | taken user => simp [Bound, Unrecorded]

-- A callback leaves a session exactly if it succeeds, or fails with what kept its record from being made.
-- Nothing can fail after that record.
theorem session_left_iff {s : Settings} {given : Option HttpClient} {before : List NetExchange}
    (resolving : Runs (Resolution.resolve s given) before (.ok h.config))
    {history : List (CallbackExchange User)} {result : Except Failure Text}
    (runs : Runs (h.handle query request expected) history result) :
    (Bound history ↔ (∃ url, result = .ok url) ∨ ∃ failure, result = .error failure ∧ Unrecorded history failure)
      ∧ ∀ failure, Unrecorded history failure → result = .error failure := by
  have settled := ((Resolution.meets_resolve s given).of_runs resolving).2 h.config rfl
  obtain ⟨parts, _, leads⟩ := settled.baseUrl.successUrl (h := h)
  obtain ⟨outcome, course, rfl⟩ := leaves_handle.1 runs.leaves
  obtain ⟨bound, blamed⟩ := course.session
  rw [bound_traceOf] at bound
  simp only [unrecorded_traceOf] at bound blamed
  cases outcome with
  | error failure =>
    refine ⟨?_, fun other unrecorded => ?_⟩
    · simpa [Except.bind] using bound
    · cases blamed other unrecorded
      rfl
  | ok done =>
    refine ⟨?_, fun other unrecorded => ?_⟩
    · simpa [Except.bind, leads] using bound
    · cases blamed other unrecorded

theorem mapClaims_of_sample :
    ((ofConfig Sample.resolved).mapper.mapClaims Sample.claims).2 = .ok Sample.identity := by
  have same : (ofConfig Sample.resolved).mapper = Sample.mapper := rfl
  rw [same]
  exact Sample.mapClaims_claims

theorem session_left_iff_of_unbound :
    ∃ (before : List NetExchange) (history : List (CallbackExchange Text)) (failure : Failure),
      Runs (Resolution.resolve Sample.settings none) before (.ok Sample.resolved)
        ∧ Runs ((ofConfig Sample.resolved).handle "code=abc" Sample.request none) history (.error failure)
        ∧ ¬ Bound history := by
  obtain ⟨before, resolving⟩ := Sample.runs_resolve
  let failure : Failure := .raised ⟨.runtime, "no session"⟩
  have taken : TakesOver Sample.request Sample.identity _ (.error failure) := .unbound ("al" : Text) failure
  obtain ⟨history, runs, acts⟩ :=
    leaves_handle.2 ⟨_, .admitted Sample.parse_code Sample.token mapClaims_of_sample taken, rfl⟩
  refine ⟨before, history, failure, resolving, runs, fun bound => ?_⟩
  rcases (session_left_iff resolving runs).1.1 bound with ⟨url, impossible⟩ | ⟨other, _, unrecorded⟩
  · cases impossible
  · rw [← unrecorded_traceOf, acts] at unrecorded
    simp [Unrecorded] at unrecorded

-- The session is there when the record of the login fails, and so does the callback.
theorem session_left_by_failed_record :
    ∃ (before : List NetExchange) (history : List (CallbackExchange Text)) (failure : Failure),
      Runs (Resolution.resolve Sample.settings none) before (.ok Sample.resolved)
        ∧ Runs ((ofConfig Sample.resolved).handle "code=abc" Sample.request none) history (.error failure)
        ∧ Bound history := by
  obtain ⟨before, resolving⟩ := Sample.runs_resolve
  let failure : Failure := .raised ⟨.runtime, "no record"⟩
  have taken : TakesOver Sample.request Sample.identity _ (.error failure) := .unrecorded ("al" : Text) failure
  obtain ⟨history, runs, acts⟩ :=
    leaves_handle.2 ⟨_, .admitted Sample.parse_code Sample.token mapClaims_of_sample taken, rfl⟩
  refine ⟨before, history, failure, resolving, runs, ?_⟩
  rw [← bound_traceOf, acts]
  simp [Bound]

end CallbackHandler

end OidcLogin
