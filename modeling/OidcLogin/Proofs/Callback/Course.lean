import OidcLogin.Callback.Handler
import OidcLogin.Proofs.Program.Trace

namespace OidcLogin

open Program

variable {User : Type}

abbrev CallbackExchange (User : Type) := Exchange (CallbackEffect.Reply : CallbackEffect User → Type)

def CallbackEffect.isAct : CallbackEffect User → Bool
  | .note _ => false
  | _ => true

namespace CallbackProgram

theorem leaves_noteAll {notes : List Note} {trace : List (CallbackExchange User)}
    {result : Unit} :
    Leaves CallbackEffect.isAct (noteAll notes : CallbackProgram User Unit) trace result
      ↔ trace = [] := by
  induction notes with
  | nil => simp [noteAll, leaves_done]
  | cons n rest ih => exact (leaves_ignored rfl).trans ih

theorem leaves_noted {α : Type} {notes : List Note} {next : CallbackProgram User α}
    {trace : List (CallbackExchange User)} {result : α} :
    Leaves CallbackEffect.isAct (noteAll notes >>= fun _ => next) trace result
      ↔ Leaves CallbackEffect.isAct next trace result :=
  leaves_silent_bind fun _ _ => leaves_noteAll

end CallbackProgram

namespace CallbackHandler

-- How the host application can take a user over, step after step until one of its calls fails.
inductive TakesOver (request : CallbackRequest) (identity : UserIdentity) :
    List (CallbackExchange User) → Except Failure Unit → Prop
  | unknown (failure : Failure) :
      TakesOver request identity
        [⟨.login identity.email identity.displayName identity.isAdministrator, .error failure⟩]
        (.error failure)
  | unbound (user : User) (failure : Failure) :
      TakesOver request identity
        [⟨.login identity.email identity.displayName identity.isAdministrator, .ok user⟩,
         ⟨.establish request user, .error failure⟩]
        (.error failure)
  | unrecorded (user : User) (failure : Failure) :
      TakesOver request identity
        [⟨.login identity.email identity.displayName identity.isAdministrator, .ok user⟩,
         ⟨.establish request user, .ok ()⟩, ⟨.audit request user, .error failure⟩]
        (.error failure)
  | taken (user : User) :
      TakesOver request identity
        [⟨.login identity.email identity.displayName identity.isAdministrator, .ok user⟩,
         ⟨.establish request user, .ok ()⟩, ⟨.audit request user, .ok ()⟩]
        (.ok ())

-- How a callback can go on, step after step until one of them fails.
inductive Course (h : CallbackHandler) (query : Text) (request : CallbackRequest)
    (expected : Option Text) :
    List (CallbackExchange User) → Except Failure Unit → Prop
  | unread {failure : Failure} (read : Callback.parse query expected = .error failure) :
      Course h query request expected [] (.error failure)
  | unexchanged {code : Text} (read : Callback.parse query expected = .ok code) (failure : Failure) :
      Course h query request expected
        [⟨.exchangeCode code (h.redirectUri request), .error failure⟩] (.error failure)
  | unfetched {code : Text} (read : Callback.parse query expected = .ok code)
      (token : TokenResponse) (failure : Failure) :
      Course h query request expected
        [⟨.exchangeCode code (h.redirectUri request), .ok token⟩,
         ⟨.fetchUserInfo token.accessToken, .error failure⟩]
        (.error failure)
  | refused {code : Text} (read : Callback.parse query expected = .ok code)
      (token : TokenResponse) {claims : Members} {failure : Failure}
      (mapped : (h.mapper.mapClaims claims).2 = .error failure) :
      Course h query request expected
        [⟨.exchangeCode code (h.redirectUri request), .ok token⟩,
         ⟨.fetchUserInfo token.accessToken, .ok claims⟩]
        (.error failure)
  | admitted {code : Text} (read : Callback.parse query expected = .ok code)
      (token : TokenResponse) {claims : Members} {identity : UserIdentity}
      (mapped : (h.mapper.mapClaims claims).2 = .ok identity)
      {rest : List (CallbackExchange User)} {outcome : Except Failure Unit}
      (after : TakesOver request identity rest outcome) :
      Course h query request expected
        (⟨.exchangeCode code (h.redirectUri request), .ok token⟩
          :: ⟨.fetchUserInfo token.accessToken, .ok claims⟩ :: rest)
        outcome

variable {h : CallbackHandler} {query : Text} {request : CallbackRequest} {expected : Option Text}
  {identity : UserIdentity} {trace : List (CallbackExchange User)}
  {outcome : Except Failure Unit}

theorem leaves_handOver :
    (∃ state, Leaves CallbackEffect.isAct (handOver request identity) trace (state, outcome))
      ↔ TakesOver request identity trace outcome := by
  constructor
  · intro given
    obtain ⟨state, left⟩ := given
    obtain ⟨reply, rest, rfl, found⟩ := (leaves_kept rfl).1 left
    cases reply with
    | error failure =>
      obtain ⟨rfl, same⟩ := leaves_done.1 found
      cases same
      exact .unknown failure
    | ok user =>
      obtain ⟨reply, rest, rfl, bound⟩ := (leaves_kept rfl).1 found
      cases reply with
      | error failure =>
        obtain ⟨rfl, same⟩ := leaves_done.1 bound
        cases same
        exact .unbound user failure
      | ok _ =>
        obtain ⟨reply, rest, rfl, recorded⟩ := (leaves_kept rfl).1 bound
        cases reply with
        | error failure =>
          obtain ⟨rfl, same⟩ := leaves_done.1 recorded
          cases same
          exact .unrecorded user failure
        | ok _ =>
          obtain ⟨rfl, same⟩ := leaves_pure.1 (CallbackProgram.leaves_noted.1 recorded)
          cases same
          exact .taken user
  · intro taken
    cases taken with
    | unknown failure => exact ⟨_, .asked rfl (.finished _)⟩
    | unbound user failure => exact ⟨_, .asked rfl (.asked rfl (.finished _))⟩
    | unrecorded user failure => exact ⟨_, .asked rfl (.asked rfl (.asked rfl (.finished _)))⟩
    | taken user =>
      exact ⟨.done, .asked rfl (.asked rfl (.asked rfl
        (CallbackProgram.leaves_noted.2 (.finished _))))⟩

theorem leaves_steps :
    (∃ state, Leaves CallbackEffect.isAct (h.steps query request expected) trace (state, outcome))
      ↔ Course h query request expected trace outcome := by
  unfold steps
  cases read : Callback.parse query expected with
  | error failure =>
    constructor
    · intro given
      obtain ⟨state, left⟩ := given
      obtain ⟨rfl, same⟩ := leaves_done.1 left
      cases same
      exact .unread read
    · intro course
      cases course with
      | unread other =>
        cases read.symm.trans other
        exact ⟨_, .finished _⟩
      | unexchanged other | unfetched other | refused other | admitted other =>
        cases read.symm.trans other
  | ok code =>
    constructor
    · intro given
      obtain ⟨state, left⟩ := given
      obtain ⟨reply, rest, rfl, exchanged⟩ := (leaves_kept rfl).1 (CallbackProgram.leaves_noted.1 left)
      cases reply with
      | error failure =>
        obtain ⟨rfl, same⟩ := leaves_done.1 exchanged
        cases same
        exact .unexchanged read failure
      | ok token =>
        obtain ⟨reply, rest, rfl, fetched⟩ :=
          (leaves_kept rfl).1 (CallbackProgram.leaves_noted.1 exchanged)
        cases reply with
        | error failure =>
          obtain ⟨rfl, same⟩ := leaves_done.1 fetched
          cases same
          exact .unfetched read token failure
        | ok claims =>
          have decided := CallbackProgram.leaves_noted.1 fetched
          rcases mapped : h.mapper.mapClaims claims with ⟨notes, failure | identity⟩
          · simp only [mapped] at decided
            obtain ⟨rfl, same⟩ := leaves_pure.1 (CallbackProgram.leaves_noted.1 decided)
            cases same
            exact .refused read token (by rw [mapped])
          · simp only [mapped] at decided
            have taken := leaves_handOver.1 ⟨state, CallbackProgram.leaves_noted.1 decided⟩
            exact .admitted read token (by rw [mapped]) taken
    · intro course
      cases course with
      | unread other => cases read.symm.trans other
      | unexchanged other failure =>
        cases read.symm.trans other
        exact ⟨_, CallbackProgram.leaves_noted.2 (.asked rfl (.finished _))⟩
      | unfetched other token failure =>
        cases read.symm.trans other
        exact ⟨.codeExchanged, CallbackProgram.leaves_noted.2 (.asked rfl
          (CallbackProgram.leaves_noted.2 (.asked rfl (.finished _))))⟩
      | @refused _ other token claims failure mapped =>
        cases read.symm.trans other
        refine ⟨.userInfoFetched, CallbackProgram.leaves_noted.2 (.asked rfl
          (CallbackProgram.leaves_noted.2 (.asked rfl (CallbackProgram.leaves_noted.2 ?_))))⟩
        generalize h.mapper.mapClaims claims = decided at mapped ⊢
        obtain ⟨notes, decision⟩ := decided
        obtain rfl : decision = .error failure := mapped
        exact CallbackProgram.leaves_noted.2 (.finished _)
      | @admitted _ other token claims identity mapped _ _ after =>
        cases read.symm.trans other
        obtain ⟨state, taken⟩ := leaves_handOver.2 after
        refine ⟨state, CallbackProgram.leaves_noted.2 (.asked rfl
          (CallbackProgram.leaves_noted.2 (.asked rfl (CallbackProgram.leaves_noted.2 ?_))))⟩
        generalize h.mapper.mapClaims claims = decided at mapped ⊢
        obtain ⟨notes, decision⟩ := decided
        obtain rfl : decision = .ok identity := mapped
        exact CallbackProgram.leaves_noted.2 taken

theorem leaves_handle {result : Except Failure Text} :
    Leaves CallbackEffect.isAct (h.handle query request expected) trace result
      ↔ ∃ outcome, Course h query request expected trace outcome
          ∧ result = outcome.bind fun () => h.successUrl := by
  unfold handle
  rw [CallbackProgram.leaves_noted, leaves_bind]
  constructor
  · intro given
    obtain ⟨first, ⟨state, outcome⟩, second, rfl, stepped, told⟩ := given
    have course := leaves_steps.1 ⟨state, stepped⟩
    cases outcome with
    | error failure =>
      obtain ⟨rfl, rfl⟩ := leaves_pure.1 (CallbackProgram.leaves_noted.1 told)
      exact ⟨_, by simpa using course, rfl⟩
    | ok _ =>
      obtain ⟨rfl, rfl⟩ := leaves_pure.1 (CallbackProgram.leaves_noted.1 told)
      exact ⟨_, by simpa using course, rfl⟩
  · intro given
    obtain ⟨outcome, course, rfl⟩ := given
    obtain ⟨state, stepped⟩ := leaves_steps.2 course
    refine ⟨trace, (state, outcome), [], by simp, stepped, ?_⟩
    cases outcome with
    | error failure => exact CallbackProgram.leaves_noted.2 (.finished _)
    | ok _ => exact CallbackProgram.leaves_noted.2 (.finished _)

end CallbackHandler

end OidcLogin
