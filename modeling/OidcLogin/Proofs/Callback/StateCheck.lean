import OidcLogin.Proofs.Callback.Reading
import OidcLogin.Proofs.Callback.WithClient

namespace OidcLogin

open Program

namespace Callback

variable {query state code : Text}

-- The state that a query presents is the last one with a value, of the pairs that are read.
def Presents (query state : Text) : Prop :=
  ∃ pairs, answerPairs query = .ok pairs ∧ Form.last? pairs "state" = some state

theorem isOtherState_eq_false {pairs : Form.Pairs} (given : state ≠ []) :
    isOtherState (some state) pairs = false ↔ Form.last? pairs "state" = some state := by
  cases state with
  | nil => exact absurd rfl given
  | cons c rest => simp [isOtherState]

theorem presents_of_parse (given : state ≠ []) (parsed : parse query (some state) = .ok code) :
    Presents query state := by
  obtain ⟨_, _, same⟩ := parse_eq_ok.1 parsed
  exact ⟨_, answerPairs_eq query, (isOtherState_eq_false given).1 same⟩

theorem not_presents_nil : ¬ Presents query [] := by
  intro presents
  obtain ⟨pairs, answered, found⟩ := presents
  obtain rfl := Except.ok.inj ((answerPairs_eq query).symm.trans answered)
  exact (Form.mem_filled.1 (Form.mem_of_last? found)).2 rfl

theorem presents_of_plain (plain : ∀ c ∈ query, isMark c = false) :
    Presents query state ↔ Form.last? (Form.filled (Form.decode true query)) "state" = some state := by
  have same : readPairs query = Form.filled (Form.decode true query) := by
    unfold readPairs
    rw [visible_eq_self plain]
  rw [← same]
  constructor
  · intro presents
    obtain ⟨pairs, answered, found⟩ := presents
    obtain rfl := Except.ok.inj ((answerPairs_eq query).symm.trans answered)
    exact found
  · intro found
    exact ⟨_, answerPairs_eq query, found⟩

end Callback

-- A failure of the callback itself: it is malformed, or the provider denied the login.
def Failure.isOfCallback (failure : Failure) : Prop :=
  failure.kind.isA .malformedCallback = true ∨ failure.kind.isA .authorizationDenied = true

theorem CallbackFault.isOfCallback (fault : CallbackFault) : (Failure.callback fault).isOfCallback := by
  cases fault with
  | denied text => exact .inr rfl
  | otherState => exact .inl rfl
  | noCode => exact .inl rfl

def CallbackEffect.isExchange {User : Type} : CallbackEffect User → Bool
  | .exchangeCode .. => true
  | _ => false

theorem CallbackEffect.isAct_of_isExchange {User : Type} {effect : CallbackEffect User}
    (isExchange : effect.isExchange = true) : effect.isAct = true := by
  cases effect with
  | note n => cases isExchange
  | exchangeCode _ _ | fetchUserInfo _ | login _ _ _ | establish _ _ | audit _ _ => rfl

namespace CallbackHandler

variable {User : Type} {h : CallbackHandler} {query : Text} {request : CallbackRequest}
  {expected : Option Text}

theorem Course.begins {acts : List (CallbackExchange User)} {outcome : Except Failure Unit}
    (course : Course h query request expected acts outcome) :
    (acts = [] ∧ ∃ failure, Callback.parse query expected = .error failure ∧ outcome = .error failure)
      ∨ ∃ code reply rest, Callback.parse query expected = .ok code
          ∧ acts = ⟨.exchangeCode code (h.redirectUri request), reply⟩ :: rest := by
  cases course with
  | unread read => exact .inl ⟨rfl, _, read, rfl⟩
  | unexchanged read failure => exact .inr ⟨_, _, _, read, rfl⟩
  | unfetched read token failure => exact .inr ⟨_, _, _, read, rfl⟩
  | refused read token mapped => exact .inr ⟨_, _, _, read, rfl⟩
  | admitted read token mapped after => exact .inr ⟨_, _, _, read, rfl⟩

theorem Course.parsed {acts : List (CallbackExchange User)} {outcome : Except Failure Unit}
    (course : Course h query request expected acts outcome) (acted : acts ≠ []) :
    ∃ code, Callback.parse query expected = .ok code := by
  rcases course.begins with ⟨nothing, _⟩ | ⟨code, _, _, read, _⟩
  · exact absurd nothing acted
  · exact ⟨code, read⟩

theorem idle_of_not_exchanged {history : List (CallbackExchange User)} {result : Except Failure Text}
    (runs : Runs (h.handle query request expected) history result)
    (notExchanged : ∀ exchange ∈ history, exchange.1.isExchange = false) :
    traceOf CallbackEffect.isAct history = []
      ∧ ∃ failure, result = .error failure ∧ failure.isOfCallback := by
  obtain ⟨outcome, course, rfl⟩ := leaves_handle.1 runs.leaves
  rcases course.begins with ⟨nothing, failure, read, rfl⟩ | ⟨code, reply, rest, _, acts⟩
  · obtain ⟨fault, rfl⟩ := Callback.parse_eq_error read
    exact ⟨nothing, _, rfl, fault.isOfCallback⟩
  · have member : (⟨.exchangeCode code (h.redirectUri request), reply⟩ : CallbackExchange User)
        ∈ traceOf CallbackEffect.isAct history := by
      rw [acts]
      exact List.mem_cons_self
    have impossible := notExchanged _ (mem_traceOf.1 member).1
    cases impossible

theorem presents_of_act {state : Text} (given : state ≠ []) {history : List (CallbackExchange User)}
    {result : Except Failure Text} (runs : Runs (h.handle query request (some state)) history result)
    (acted : ∃ exchange ∈ history, exchange.1.isAct = true) : Callback.Presents query state := by
  obtain ⟨outcome, course, _⟩ := leaves_handle.1 runs.leaves
  obtain ⟨code, parsed⟩ := course.parsed (traceOf_ne_nil.2 acted)
  exact Callback.presents_of_parse given parsed

theorem presents_of_act_withClient {state : Text} (given : state ≠ []) {client : OidcClient}
    {history : List (LoginExchange User)} {result : Except Failure Text}
    (runs : Runs ((h.handle query request (some state)).withClient client) history result)
    (acted : ∃ exchange ∈ history, exchange.1.isAct = true) : Callback.Presents query state := by
  obtain ⟨acts, outcome, course, _, expanded⟩ := leaves_withClient.1 runs.leaves
  have notIdle : acts ≠ [] := by
    intro nothing
    subst nothing
    exact traceOf_ne_nil.2 acted (expands_nil.1 expanded)
  obtain ⟨code, parsed⟩ := course.parsed notIdle
  exact Callback.presents_of_parse given parsed

theorem exchanges_of_parse (User : Type) (h : CallbackHandler) (request : CallbackRequest) {code : Text}
    (read : Callback.parse query expected = .ok code) :
    ∃ (history : List (CallbackExchange User)) (result : Except Failure Text),
      Runs (h.handle query request expected) history result
        ∧ ∃ exchange ∈ history, exchange.1.isExchange = true := by
  obtain ⟨history, runs, acts⟩ := leaves_handle.2 ⟨_, .unexchanged read .groupsDenied, rfl⟩
  have member : (⟨.exchangeCode code (h.redirectUri request), .error .groupsDenied⟩ : CallbackExchange User)
      ∈ traceOf CallbackEffect.isAct history := by
    rw [acts]
    exact List.mem_cons_self
  exact ⟨history, _, runs, _, (mem_traceOf.1 member).1, rfl⟩

theorem parse_of_empty_state : Callback.parse "code=abc" (some []) = .ok "abc" := Sample.parse_code

-- An expected state guards everything that a callback does exactly if it is not empty; the empty state is
-- handled as none.  A query without a mark presents the state that it says as a whole.
theorem state_guards_callback (h : CallbackHandler) (state : Text) :
    ((∀ query request (history : List (CallbackExchange User)) result,
        Runs (h.handle query request (some state)) history result →
          (∃ exchange ∈ history, exchange.1.isAct = true) → Callback.Presents query state)
      ↔ state ≠ [])
    ∧ (∀ query request (history : List (CallbackExchange User)) result,
        Runs (h.handle query request (some state)) history result →
          (∀ exchange ∈ history, exchange.1.isExchange = false) →
            traceOf CallbackEffect.isAct history = []
              ∧ ∃ failure, result = .error failure ∧ failure.isOfCallback)
    ∧ (∀ client query request (history : List (LoginExchange User)) result,
        Runs ((h.handle query request (some state)).withClient client) history result →
          (∃ exchange ∈ history, exchange.1.isAct = true) → state ≠ [] → Callback.Presents query state)
    ∧ (state = [] → ∀ query request,
        (h.handle query request (some state) : CallbackProgram User _) = h.handle query request none)
    ∧ ∀ query, (∀ c ∈ query, Callback.isMark c = false) →
        (Callback.Presents query state
          ↔ Form.last? (Form.filled (Form.decode true query)) "state" = some state) := by
  refine ⟨⟨?_, ?_⟩, ?_, ?_, ?_, ?_⟩
  · intro guarded empty
    subst empty
    obtain ⟨history, result, runs, exchange, member, isExchange⟩ :=
      exchanges_of_parse User h ⟨[]⟩ parse_of_empty_state
    have acted := CallbackEffect.isAct_of_isExchange isExchange
    exact Callback.not_presents_nil (guarded _ _ _ _ runs ⟨exchange, member, acted⟩)
  · intro given query request history result runs acted
    exact presents_of_act given runs acted
  · intro query request history result runs notExchanged
    exact idle_of_not_exchanged runs notExchanged
  · intro client query request history result runs acted given
    exact presents_of_act_withClient given runs acted
  · intro empty query request
    subst empty
    rfl
  · intro query plain
    exact Callback.presents_of_plain plain

theorem state_guards_callback_of_login :
    ∃ (history : List (CallbackExchange Text)) (result : Except Failure Text),
      Runs (Sample.handler.handle "code=abc&state=s" Sample.request (some "s")) history result
        ∧ (∃ exchange ∈ history, exchange.1.isAct = true)
        ∧ Callback.Presents "code=abc&state=s" "s" := by
  have read : Callback.parse "code=abc&state=s" (some "s") = .ok "abc" :=
    except_eq_ok_of_toOption (by decide +kernel)
  obtain ⟨history, result, runs, exchange, member, isExchange⟩ :=
    exchanges_of_parse Text Sample.handler Sample.request read
  have acted : ∃ exchange ∈ history, exchange.1.isAct = true :=
    ⟨exchange, member, CallbackEffect.isAct_of_isExchange isExchange⟩
  refine ⟨history, result, runs, acted, ?_⟩
  exact (state_guards_callback Sample.handler "s").1.2 (by decide) _ _ _ _ runs acted

-- With the empty state a code is exchanged that came without any state.
theorem empty_state_guards_nothing :
    ∃ (history : List (CallbackExchange Text)) (result : Except Failure Text),
      Runs (Sample.handler.handle "code=abc" Sample.request (some [])) history result
        ∧ (∃ exchange ∈ history, exchange.1.isExchange = true)
        ∧ ¬ Callback.Presents "code=abc" [] := by
  obtain ⟨history, result, runs, exchanged⟩ :=
    exchanges_of_parse Text Sample.handler Sample.request parse_of_empty_state
  exact ⟨history, result, runs, exchanged, Callback.not_presents_nil⟩

end CallbackHandler

end OidcLogin
