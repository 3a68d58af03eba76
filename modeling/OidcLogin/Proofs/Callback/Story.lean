import OidcLogin.Proofs.Callback.Course
import OidcLogin.Proofs.Telemetry.Span

namespace OidcLogin

open Program

variable {User : Type}

theorem Text.startsWith_append {start t : Text} (rest : Text) (long : start.length ≤ t.length) :
    Text.startsWith (t ++ rest) start = Text.startsWith t start := by
  unfold Text.startsWith
  rw [Bool.eq_iff_iff, List.isPrefixOf_iff_prefix, List.isPrefixOf_iff_prefix]
  constructor
  · intro begins
    exact List.prefix_of_prefix_length_le begins (List.prefix_append _ _) long
  · intro begins
    exact begins.trans (List.prefix_append _ _)

def stateMark : Text := "OpenID callback state: "

def failureMark : Text := "OpenID login failed"

def LogRecord.state? (record : LogRecord) : Option Text :=
  if record.level = .debug ∧ record.message.startsWith stateMark then some (record.message.drop stateMark.length)
  else none

def statesTold (logs : List LogRecord) : List Text := logs.filterMap LogRecord.state?

def failuresTold (logs : List LogRecord) : List LogRecord := logs.filter (·.message.startsWith failureMark)

def eventsOf (notes : List Note) : List Span.Event := notes.filterMap Note.span?

theorem logsOf_append (first rest : List Note) : logsOf (first ++ rest) = logsOf first ++ logsOf rest :=
  List.filterMap_append

theorem eventsOf_append (first rest : List Note) : eventsOf (first ++ rest) = eventsOf first ++ eventsOf rest :=
  List.filterMap_append

namespace CallbackEffect

def note? : CallbackEffect User → Option Note
  | .note n => some n
  | _ => none

end CallbackEffect

def notesIn (history : List (CallbackExchange User)) : List Note := history.filterMap (·.1.note?)

def noted (n : Note) : CallbackExchange User := ⟨.note n, ()⟩

theorem notesIn_append (first rest : List (CallbackExchange User)) :
    notesIn (first ++ rest) = notesIn first ++ notesIn rest := List.filterMap_append

theorem notesIn_noted (notes : List Note) : notesIn (notes.map noted : List (CallbackExchange User)) = notes := by
  unfold notesIn
  rw [List.filterMap_map]
  exact List.filterMap_some

theorem traceOf_noted (notes : List Note) :
    traceOf CallbackEffect.isAct (notes.map noted : List (CallbackExchange User)) = [] := by
  refine List.filter_eq_nil_iff.2 fun exchange member => ?_
  obtain ⟨n, _, rfl⟩ := List.mem_map.1 member
  exact Bool.false_ne_true

namespace CallbackProgram

theorem runs_noteAll {α : Type} {notes : List Note} {next : CallbackProgram User α}
    {history : List (CallbackExchange User)} {result : α} :
    Runs (noteAll notes >>= fun _ => next) history result
      ↔ ∃ rest, history = notes.map noted ++ rest ∧ Runs next rest result := by
  induction notes generalizing history with
  | nil =>
    constructor
    · intro runs
      exact ⟨history, rfl, runs⟩
    · intro given
      obtain ⟨rest, rfl, runs⟩ := given
      exact runs
  | cons n notes ih =>
    constructor
    · intro runs
      obtain ⟨reply, later, rfl, runsOn⟩ := runs_ask.1 runs
      have others : Runs (noteAll notes >>= fun _ => next) later result := runsOn
      obtain ⟨rest, rfl, after⟩ := ih.1 others
      exact ⟨rest, rfl, after⟩
    · intro given
      obtain ⟨rest, rfl, after⟩ := given
      exact runs_ask.2 ⟨(), _, rfl, ih.2 ⟨rest, rfl, after⟩⟩

end CallbackProgram

namespace CallbackHandler

variable {h : CallbackHandler} {query : Text} {request : CallbackRequest} {expected : Option Text}
  {history : List (CallbackExchange User)} {state : CallbackState} {outcome : Except Failure Unit}

def path : List CallbackState := [.parsedResponse, .codeExchanged, .userInfoFetched, .authorizationDecided, .done]

-- The identity that an act's answer is mapped to.
def mappedBy (h : CallbackHandler) : CallbackExchange User → Option UserIdentity
  | ⟨.fetchUserInfo _, .ok claims⟩ => (h.mapper.mapClaims claims).2.toOption
  | _ => none

def decisionNotes (h : CallbackHandler) (claims : Members) : List Note :=
  match h.mapper.mapClaims claims with
  | (notes, .error _) => notes
  | (notes, .ok identity) => notes ++ administratorNote identity.isAdministrator :: reached .authorizationDecided

-- What is noted right after an act.
def afterwards (h : CallbackHandler) : CallbackExchange User → List Note
  | ⟨.exchangeCode .., .ok _⟩ => reached .codeExchanged
  | ⟨.fetchUserInfo _, .ok claims⟩ => reached .userInfoFetched ++ h.decisionNotes claims
  | ⟨.audit .., .ok ()⟩ => reached .done ++ [.span (.status .ok)]
  | _ => []

def decisionStates (h : CallbackHandler) (claims : Members) : List CallbackState :=
  ((h.mapper.mapClaims claims).2.toOption.map fun _ => CallbackState.authorizationDecided).toList

-- The states that an act leads to.
def statesAfter (h : CallbackHandler) : CallbackExchange User → List CallbackState
  | ⟨.exchangeCode .., .ok _⟩ => [.codeExchanged]
  | ⟨.fetchUserInfo _, .ok claims⟩ => .userInfoFetched :: h.decisionStates claims
  | ⟨.audit .., .ok ()⟩ => [.done]
  | _ => []

def statusAfter : CallbackExchange User → List Span.Status
  | ⟨.audit .., .ok ()⟩ => [.ok]
  | _ => []

def opening (query : Text) (expected : Option Text) : List CallbackState :=
  match Callback.parse query expected with
  | .ok _ => [.parsedResponse]
  | .error _ => []

-- The states of a callback that did these acts.
def statesOf (h : CallbackHandler) (query : Text) (expected : Option Text) (acts : List (CallbackExchange User)) :
    List CallbackState :=
  opening query expected ++ acts.flatMap h.statesAfter

theorem runs_handOver {identity : UserIdentity} (runs : Runs (handOver request identity) history (state, outcome)) :
    notesIn history = (traceOf CallbackEffect.isAct history).flatMap h.afterwards
      ∧ state = ((traceOf CallbackEffect.isAct history).flatMap h.statesAfter).getLast?.getD .authorizationDecided := by
  obtain ⟨reply, rest, rfl, found⟩ := runs_ask.1 runs
  cases reply with
  | error failure =>
    obtain ⟨rfl, same⟩ := runs_done.1 found
    cases same
    exact ⟨rfl, rfl⟩
  | ok user =>
    obtain ⟨reply, rest, rfl, bound⟩ := runs_ask.1 found
    cases reply with
    | error failure =>
      obtain ⟨rfl, same⟩ := runs_done.1 bound
      cases same
      exact ⟨rfl, rfl⟩
    | ok _ =>
      obtain ⟨reply, rest, rfl, recorded⟩ := runs_ask.1 bound
      cases reply with
      | error failure =>
        obtain ⟨rfl, same⟩ := runs_done.1 recorded
        cases same
        exact ⟨rfl, rfl⟩
      | ok _ =>
        obtain ⟨rest, rfl, finished⟩ := CallbackProgram.runs_noteAll.1 recorded
        obtain ⟨rfl, same⟩ := runs_done.1 finished
        cases same
        exact ⟨rfl, rfl⟩

theorem runs_decision {claims : Members}
    (runs : Runs (match h.mapper.mapClaims claims with
      | (notes, .error failure) => CallbackProgram.noteAll notes >>= fun _ => pure (.userInfoFetched, .error failure)
      | (notes, .ok identity) =>
        CallbackProgram.noteAll (notes ++ administratorNote identity.isAdministrator :: reached .authorizationDecided)
          >>= fun _ => handOver request identity) history (state, outcome)) :
    notesIn history = h.decisionNotes claims ++ (traceOf CallbackEffect.isAct history).flatMap h.afterwards
      ∧ state = (h.decisionStates claims
          ++ (traceOf CallbackEffect.isAct history).flatMap h.statesAfter).getLast?.getD .userInfoFetched := by
  unfold decisionNotes decisionStates
  rcases mapped : h.mapper.mapClaims claims with ⟨notes, failure | identity⟩
  · simp only [mapped] at runs
    obtain ⟨rest, rfl, refused⟩ := CallbackProgram.runs_noteAll.1 runs
    obtain ⟨rfl, same⟩ := runs_done.1 refused
    cases same
    rw [notesIn_append, notesIn_noted, traceOf_append, traceOf_noted]
    exact ⟨rfl, rfl⟩
  · simp only [mapped] at runs
    obtain ⟨rest, rfl, taken⟩ := CallbackProgram.runs_noteAll.1 runs
    obtain ⟨told, last⟩ := runs_handOver (h := h) taken
    rw [notesIn_append, notesIn_noted, traceOf_append, traceOf_noted, told, last]
    refine ⟨rfl, ?_⟩
    simp [Except.toOption, List.getLast?_cons]

theorem runs_steps (runs : Runs (h.steps query request expected) history (state, outcome)) :
    notesIn history
        = (opening query expected).flatMap reached ++ (traceOf CallbackEffect.isAct history).flatMap h.afterwards
      ∧ state = (h.statesOf query expected (traceOf CallbackEffect.isAct history)).getLast?.getD .receivedCallback := by
  unfold steps at runs
  unfold statesOf opening
  cases read : Callback.parse query expected with
  | error failure =>
    rw [read] at runs
    obtain ⟨rfl, same⟩ := runs_done.1 runs
    cases same
    exact ⟨rfl, rfl⟩
  | ok code =>
    rw [read] at runs
    obtain ⟨rest, rfl, parsed⟩ := CallbackProgram.runs_noteAll.1 runs
    obtain ⟨reply, rest, rfl, exchanged⟩ := runs_ask.1 parsed
    cases reply with
    | error failure =>
      obtain ⟨rfl, same⟩ := runs_done.1 exchanged
      cases same
      exact ⟨rfl, rfl⟩
    | ok token =>
      obtain ⟨rest, rfl, asked⟩ := CallbackProgram.runs_noteAll.1 exchanged
      obtain ⟨reply, rest, rfl, fetched⟩ := runs_ask.1 asked
      cases reply with
      | error failure =>
        obtain ⟨rfl, same⟩ := runs_done.1 fetched
        cases same
        exact ⟨rfl, rfl⟩
      | ok claims =>
        obtain ⟨rest, rfl, decided⟩ := CallbackProgram.runs_noteAll.1 fetched
        obtain ⟨told, last⟩ := runs_decision decided
        refine ⟨?_, ?_⟩
        · change reached .parsedResponse ++ (reached .codeExchanged ++ (reached .userInfoFetched ++ notesIn rest))
            = reached .parsedResponse ++ (reached .codeExchanged
              ++ ((reached .userInfoFetched ++ h.decisionNotes claims)
                ++ (traceOf CallbackEffect.isAct rest).flatMap h.afterwards))
          rw [told, List.append_assoc]
        · change state = (.parsedResponse :: .codeExchanged :: .userInfoFetched :: (h.decisionStates claims
            ++ (traceOf CallbackEffect.isAct rest).flatMap h.statesAfter)).getLast?.getD .receivedCallback
          rw [last]
          simp [List.getLast?_cons]

-- What notes tell: no failure, these states both in records and in the span, these decisions and statuses.
structure Told (notes : List Note) (states : List CallbackState) (decisions : List Bool)
    (statuses : List Span.Status) : Prop where
  records : statesTold (logsOf notes) = states.map CallbackState.text
  silent : failuresTold (logsOf notes) = []
  states : Span.valuesOf stateAttribute (eventsOf notes) = states.map fun state => .text state.text
  decisions : Span.valuesOf "openid.administrator" (eventsOf notes) = decisions.map .bool
  statuses : Span.statusesOf (eventsOf notes) = statuses
  failures : Span.failuresOf (eventsOf notes) = []
  inner : ∀ event ∈ eventsOf notes, event.isInner = true

theorem told_nil : Told [] [] [] [] := ⟨rfl, rfl, rfl, rfl, rfl, rfl, nofun⟩

theorem Told.append {notes more : List Note} {states others : List CallbackState} {decisions further : List Bool}
    {statuses later : List Span.Status} (first : Told notes states decisions statuses)
    (rest : Told more others further later) :
    Told (notes ++ more) (states ++ others) (decisions ++ further) (statuses ++ later) where
  records := by
    rw [logsOf_append, List.map_append, ← first.records, ← rest.records]
    exact List.filterMap_append
  silent := by
    rw [logsOf_append]
    exact (List.filter_append _ _).trans (by rw [← failuresTold, ← failuresTold, first.silent, rest.silent]; rfl)
  states := by rw [eventsOf_append, Span.valuesOf_append, List.map_append, first.states, rest.states]
  decisions := by rw [eventsOf_append, Span.valuesOf_append, List.map_append, first.decisions, rest.decisions]
  statuses := by rw [eventsOf_append, Span.statusesOf_append, first.statuses, rest.statuses]
  failures := by rw [eventsOf_append, Span.failuresOf_append, first.failures, rest.failures]; rfl
  inner := by
    rw [eventsOf_append]
    exact List.forall_mem_append.2 ⟨first.inner, rest.inner⟩

theorem told_reached (state : CallbackState) : Told (reached state) [state] [] [] := by
  cases state with
  | _ => exact ⟨by decide, by decide, by decide, by decide, by decide, by decide, by decide⟩

theorem told_other {record : LogRecord} (noState : record.state? = none)
    (noFailure : record.message.startsWith failureMark = false) : Told [.log record] [] [] [] where
  records := by
    change [record].filterMap LogRecord.state? = []
    rw [List.filterMap_cons_none noState]
    rfl
  silent := by
    change [record].filter (·.message.startsWith failureMark) = []
    rw [List.filter_cons_of_neg (by rw [noFailure]; exact Bool.false_ne_true)]
    rfl
  states := rfl
  decisions := rfl
  statuses := rfl
  failures := rfl
  inner := nofun

theorem LogRecord.state?_of_level {record : LogRecord} (level : record.level ≠ .debug) : record.state? = none :=
  if_neg fun given => level given.1

theorem told_administrator (administrator : Bool) : Told [administratorNote administrator] [] [administrator] [] := by
  cases administrator with
  | _ => exact ⟨by decide, by decide, by decide, by decide, by decide, by decide, by decide⟩

theorem told_mapClaims (m : IdentityMapper) (claims : Members) : Told (m.mapClaims claims).1 [] [] [] := by
  unfold IdentityMapper.mapClaims
  cases (UserClaims.read (m.relevant claims)).toExcept UserClaims.model with
  | error report => exact told_nil
  | ok claims =>
    dsimp only
    unfold IdentityMapper.decide
    dsimp only
    split
    · cases m.isAdministrator claims.groups with
      | _ => exact told_other (by decide) (by decide)
    · refine told_other (LogRecord.state?_of_level nofun) ?_
      change Text.startsWith (Text.ofString _ ++ Text.ofNat _ ++ Text.ofString _) failureMark = false
      rw [List.append_assoc, Text.startsWith_append _ (by decide)]
      decide

theorem told_decision (h : CallbackHandler) (claims : Members) :
    Told (h.decisionNotes claims) (h.decisionStates claims)
      (((h.mapper.mapClaims claims).2.toOption.map UserIdentity.isAdministrator).toList) [] := by
  have quiet := told_mapClaims h.mapper claims
  unfold decisionNotes decisionStates
  generalize h.mapper.mapClaims claims = decided at quiet ⊢
  obtain ⟨notes, failure | identity⟩ := decided
  · exact quiet
  · exact quiet.append ((told_administrator _).append (told_reached .authorizationDecided))

-- One act: its notes tell the states that it leads to.
theorem told_afterwards (h : CallbackHandler) (act : CallbackExchange User) :
    Told (h.afterwards act) (h.statesAfter act) ((h.mappedBy act).map UserIdentity.isAdministrator).toList
      (statusAfter act) := by
  match act with
  | ⟨.note n, _⟩ => exact told_nil
  | ⟨.exchangeCode code redirectUri, .ok token⟩ => exact told_reached .codeExchanged
  | ⟨.exchangeCode code redirectUri, .error failure⟩ => exact told_nil
  | ⟨.fetchUserInfo accessToken, .ok claims⟩ => exact (told_reached .userInfoFetched).append (told_decision h claims)
  | ⟨.fetchUserInfo accessToken, .error failure⟩ => exact told_nil
  | ⟨.login email name administrator, _⟩ => exact told_nil
  | ⟨.establish request user, _⟩ => exact told_nil
  | ⟨.audit request user, .ok ()⟩ =>
    have settled : Told [.span (.status .ok)] [] [] [.ok] :=
      ⟨rfl, rfl, rfl, rfl, rfl, rfl, by decide⟩
    exact (told_reached .done).append settled
  | ⟨.audit request user, .error failure⟩ => exact told_nil

theorem told_acts (h : CallbackHandler) (acts : List (CallbackExchange User)) :
    Told (acts.flatMap h.afterwards) (acts.flatMap h.statesAfter)
      (acts.flatMap fun act => ((h.mappedBy act).map UserIdentity.isAdministrator).toList)
      (acts.flatMap statusAfter) := by
  induction acts with
  | nil => exact told_nil
  | cons act acts ih => exact (told_afterwards h act).append ih

theorem told_opening (query : Text) (expected : Option Text) :
    Told ((opening query expected).flatMap reached) (opening query expected) [] [] := by
  unfold opening
  cases Callback.parse query expected with
  | error failure => exact told_nil
  | ok code => exact told_reached .parsedResponse

theorem told_steps (h : CallbackHandler) (query : Text) (expected : Option Text) (acts : List (CallbackExchange User)) :
    Told ((opening query expected).flatMap reached ++ acts.flatMap h.afterwards) (h.statesOf query expected acts)
      (acts.flatMap fun act => ((h.mappedBy act).map UserIdentity.isAdministrator).toList)
      (acts.flatMap statusAfter) :=
  (told_opening query expected).append (told_acts h acts)

theorem decisionStates_eq {claims : Members} {decided : Except Failure UserIdentity}
    (mapped : (h.mapper.mapClaims claims).2 = decided) :
    h.decisionStates claims = (decided.toOption.map fun _ => CallbackState.authorizationDecided).toList := by
  rw [decisionStates, mapped]

theorem mappedBy_eq {claims : Members} {accessToken : Text} {decided : Except Failure UserIdentity}
    (mapped : (h.mapper.mapClaims claims).2 = decided) :
    h.mappedBy (⟨.fetchUserInfo accessToken, .ok claims⟩ : CallbackExchange User) = decided.toOption :=
  congrArg Except.toOption mapped

-- What only a callback has that does not fail.
def whenDone {α : Type} (outcome : Except Failure Unit) (value : α) : List α :=
  (outcome.toOption.map fun _ => value).toList

theorem TakesOver.states {acts : List (CallbackExchange User)} {identity : UserIdentity}
    (taken : TakesOver request identity acts outcome) (h : CallbackHandler) :
    acts.flatMap h.statesAfter = whenDone outcome .done
      ∧ acts.flatMap statusAfter = whenDone outcome .ok
      ∧ (acts.flatMap fun act => ((h.mappedBy act).map UserIdentity.isAdministrator).toList) = [] := by
  cases taken with
  | unknown failure | unbound user failure | unrecorded user failure | taken user => exact ⟨rfl, rfl, rfl⟩

theorem Course.states {acts : List (CallbackExchange User)}
    (course : Course h query request expected acts outcome) :
    h.statesOf query expected acts <+: path
      ∧ (outcome = .ok () → h.statesOf query expected acts = path)
      ∧ acts.flatMap statusAfter = whenDone outcome .ok
      ∧ (acts.flatMap fun act => ((h.mappedBy act).map UserIdentity.isAdministrator).toList)
          = ((acts.findSome? h.mappedBy).map UserIdentity.isAdministrator).toList := by
  unfold statesOf opening
  cases course with
  | unread read =>
    rw [read]
    exact ⟨List.nil_prefix, nofun, rfl, rfl⟩
  | unexchanged read failure =>
    rw [read]
    exact ⟨⟨_, rfl⟩, nofun, rfl, rfl⟩
  | unfetched read token failure =>
    rw [read]
    exact ⟨⟨_, rfl⟩, nofun, rfl, rfl⟩
  | @refused code read token claims failure mapped =>
    rw [read]
    have noIdentity : h.mappedBy (⟨.fetchUserInfo token.accessToken, .ok claims⟩ : CallbackExchange User) = none :=
      mappedBy_eq mapped
    refine ⟨⟨[.authorizationDecided, .done], ?_⟩, nofun, rfl, ?_⟩
    · change (.parsedResponse :: .codeExchanged :: .userInfoFetched :: (h.decisionStates claims ++ []))
        ++ [.authorizationDecided, .done] = path
      rw [decisionStates_eq mapped]
      rfl
    · rw [List.findSome?_cons_of_isNone rfl, List.findSome?_cons, noIdentity, List.flatMap_cons, List.flatMap_cons,
        noIdentity]
      rfl
  | @admitted code read token claims identity mapped rest outcome after =>
    rw [read]
    obtain ⟨states, statuses, decisions⟩ := after.states h
    have found : h.mappedBy (⟨.fetchUserInfo token.accessToken, .ok claims⟩ : CallbackExchange User)
        = some identity := mappedBy_eq mapped
    have through : [.parsedResponse] ++ (⟨.exchangeCode code (h.redirectUri request), .ok token⟩
        :: ⟨.fetchUserInfo token.accessToken, .ok claims⟩ :: rest).flatMap h.statesAfter
        = [.parsedResponse, .codeExchanged, .userInfoFetched, .authorizationDecided]
          ++ rest.flatMap h.statesAfter := by
      change .parsedResponse :: .codeExchanged :: .userInfoFetched :: (h.decisionStates claims ++ _) = _
      rw [decisionStates_eq mapped]
      rfl
    refine ⟨?_, ?_, statuses, ?_⟩
    · rw [through, states]
      cases outcome with
      | ok _ => exact ⟨[], rfl⟩
      | error failure => exact ⟨[.done], rfl⟩
    · intro done
      rw [through, states, done]
      rfl
    · rw [List.findSome?_cons_of_isNone rfl, List.findSome?_cons, found, List.flatMap_cons, List.flatMap_cons,
        found, decisions]
      rfl

def closed (inner : List Note) (last : List Span.Event) : Span :=
  (eventsOf inner ++ last).foldl Span.record (Span.opened spanName)

section Closed

variable {inner ending : List Note} {last : List Span.Event} {states : List CallbackState} {decisions : List Bool}
  {statuses : List Span.Status}

theorem Told.spansOf_eq (told : Told inner states decisions statuses) (ends : eventsOf ending = last ++ [.finish])
    (within' : ∀ event ∈ last, event.isInner = true) :
    spansOf (.span (.start spanName) :: (inner ++ ending)) = [closed inner last] := by
  change Span.collect (some (Span.opened spanName)) (eventsOf (inner ++ ending)) = _
  rw [eventsOf_append, ends, ← List.append_assoc,
    Span.collect_inner (List.forall_mem_append.2 ⟨told.inner, within'⟩)]
  rfl

theorem Told.state_closed (told : Told inner states decisions statuses) :
    (closed inner last).attribute? stateAttribute
      = (Span.valuesOf stateAttribute last).getLast?.or (states.getLast?.map fun state => .text state.text) := by
  unfold closed
  rw [Span.attribute?_foldl, Span.valuesOf_append, told.states, List.getLast?_append, List.getLast?_map]
  exact Option.or_none

theorem Told.administrator_closed (told : Told inner states decisions statuses)
    (none : Span.valuesOf "openid.administrator" last = []) :
    (closed inner last).attribute? "openid.administrator" = decisions.getLast?.map .bool := by
  unfold closed
  rw [Span.attribute?_foldl, Span.valuesOf_append, told.decisions, none, List.append_nil, List.getLast?_map]
  exact Option.or_none

theorem Told.status_closed (told : Told inner states decisions statuses) :
    (closed inner last).status = (statuses ++ Span.statusesOf last).foldl Span.settle .unset := by
  unfold closed
  rw [Span.status_foldl, Span.statusesOf_append, told.statuses]
  rfl

theorem Told.failures_closed (told : Told inner states decisions statuses) :
    (closed inner last).failures = Span.failuresOf last := by
  unfold closed
  rw [Span.failures_foldl, Span.failuresOf_append, told.failures]
  rfl

theorem Told.statesTold_closed (told : Told inner states decisions statuses) (none : statesTold (logsOf ending) = []) :
    statesTold (logsOf (.span (.start spanName) :: (inner ++ ending))) = states.map CallbackState.text := by
  change statesTold (logsOf (inner ++ ending)) = _
  rw [logsOf_append, ← told.records, ← List.append_nil (statesTold (logsOf inner)), ← none]
  exact List.filterMap_append

theorem Told.failuresTold_closed (told : Told inner states decisions statuses) :
    failuresTold (logsOf (.span (.start spanName) :: (inner ++ ending))) = failuresTold (logsOf ending) := by
  change failuresTold (logsOf (inner ++ ending)) = _
  rw [logsOf_append]
  exact (List.filter_append _ _).trans (by rw [← failuresTold, ← failuresTold, told.silent]; rfl)

end Closed

def loginWarning (state : CallbackState) (failure : Failure) : LogRecord :=
  ⟨.warning, "OpenID login failed after " ++ state.text ++ ": " ++ failure.kind.name ++ ": " ++ failure.message⟩

theorem startsWith_loginWarning (state : CallbackState) (failure : Failure) :
    (loginWarning state failure).message.startsWith failureMark = true := by
  unfold loginWarning
  dsimp only
  rw [List.append_assoc, List.append_assoc, List.append_assoc, List.append_assoc, Text.startsWith_append _ (by decide)]
  decide

-- What records and spans of a callback tell, by the states that it reached and by how its steps ended.
structure Story (h : CallbackHandler) (acts : List (CallbackExchange User)) (outcome : Except Failure Unit)
    (logs : List LogRecord) (spans : List Span) (states : List CallbackState) (span : Span) : Prop where
  records : statesTold logs = states.map CallbackState.text
  order : states <+: path
  spans : spans = [span]
  administrator : span.attribute? "openid.administrator"
    = (acts.findSome? h.mappedBy).map fun identity => .bool identity.isAdministrator
  completed : outcome = .ok () →
    states = path ∧ failuresTold logs = [] ∧ span.attribute? "openid.state" = some (.text "done")
      ∧ span.status = .ok ∧ span.failures = []
  refused : ∀ failure, outcome = .error failure → failure.isLogin = true →
    failuresTold logs = [loginWarning (states.getLast?.getD .receivedCallback) failure]
      ∧ span.attribute? "openid.state" = some (.text "failed")
      ∧ span.status = .error ∧ span.failures = [failure.kind, failure.kind]
  raised : ∀ failure, outcome = .error failure → failure.isLogin = false →
    failuresTold logs = [] ∧ span.attribute? "openid.state" = states.getLast?.map (fun state => .text state.text)
      ∧ span.status = .error ∧ span.failures = [failure.kind]

def loginEvents (kind : Kind) : List Span.Event :=
  [.failure kind, .attribute stateAttribute (.text "failed"), .status .error, .failure kind, .status .error]

theorem failed_of_isLogin {failure : Failure} (isLogin : failure.isLogin = true) :
    logsOf (failed state failure) = [loginWarning state failure]
      ∧ eventsOf (failed state failure)
        = loginEvents failure.kind ++ [.finish] := by
  unfold failed
  rw [isLogin, if_pos rfl]
  exact ⟨rfl, rfl⟩

theorem failed_of_not_isLogin {failure : Failure} (isLogin : failure.isLogin = false) :
    logsOf (failed state failure) = []
      ∧ eventsOf (failed state failure) = [.failure failure.kind, .status .error] ++ [.finish] := by
  unfold failed
  rw [isLogin, if_neg Bool.false_ne_true]
  exact ⟨rfl, rfl⟩

def endingOf (state : CallbackState) : Except Failure Unit → List Note
  | .error failure => failed state failure
  | .ok () => [.span .finish, .info "OpenID login succeeded"]

-- A run of a callback is a run of its steps between the notes of its begin and its end.
theorem runs_handle {result : Except Failure Text} (runs : Runs (h.handle query request expected) history result) :
    ∃ body state outcome, Runs (h.steps query request expected) body (state, outcome)
      ∧ history = [.span (.start spanName)].map noted ++ (body ++ (endingOf state outcome).map noted)
      ∧ result = outcome.bind fun () => h.successUrl := by
  obtain ⟨rest, rfl, stepping⟩ := CallbackProgram.runs_noteAll.1 runs
  obtain ⟨body, ⟨state, outcome⟩, last, rfl, stepped, ended⟩ := runs_bind.1 stepping
  cases outcome with
  | error failure =>
    obtain ⟨none, rfl, finished⟩ := CallbackProgram.runs_noteAll.1 ended
    obtain ⟨rfl, rfl⟩ := runs_done.1 finished
    exact ⟨body, state, _, stepped, by rw [List.append_nil]; rfl, rfl⟩
  | ok _ =>
    obtain ⟨none, rfl, finished⟩ := CallbackProgram.runs_noteAll.1 ended
    obtain ⟨rfl, rfl⟩ := runs_done.1 finished
    exact ⟨body, state, _, stepped, by rw [List.append_nil]; rfl, rfl⟩

theorem administrator_ne_state : stateAttribute ≠ Text.ofString "openid.administrator" := by decide

section Ending

variable {acts : List (CallbackExchange User)} {inner : List Note} {states : List CallbackState}

theorem Told.decided_closed (last : List Span.Event) {statuses : List Span.Status}
    (told : Told inner states ((acts.findSome? h.mappedBy).map UserIdentity.isAdministrator).toList statuses)
    (none : Span.valuesOf "openid.administrator" last = []) :
    (closed inner last).attribute? "openid.administrator"
      = (acts.findSome? h.mappedBy).map fun identity => .bool identity.isAdministrator := by
  rw [told.administrator_closed none]
  cases acts.findSome? h.mappedBy with
  | none => rfl
  | some identity => rfl

theorem story_of_done
    (told : Told inner path ((acts.findSome? h.mappedBy).map UserIdentity.isAdministrator).toList [.ok]) :
    Story h acts (.ok ()) (logsOf (.span (.start spanName) :: (inner ++ endingOf .done (.ok ()))))
      (spansOf (.span (.start spanName) :: (inner ++ endingOf .done (.ok ())))) path (closed inner []) := by
  have ends : eventsOf (endingOf .done (.ok ())) = [] ++ [.finish] := rfl
  have logs : logsOf (endingOf .done (.ok ())) = [⟨.info, "OpenID login succeeded"⟩] := rfl
  refine ⟨?_, List.prefix_rfl, ?_, told.decided_closed [] rfl, fun _ => ?_, ?_, ?_⟩
  · exact told.statesTold_closed (by rw [logs]; decide)
  · exact told.spansOf_eq ends nofun
  · refine ⟨rfl, ?_, ?_, ?_, ?_⟩
    · rw [told.failuresTold_closed, logs]
      decide
    · exact told.state_closed
    · exact told.status_closed
    · exact told.failures_closed
  · intro failure impossible
    cases impossible
  · intro failure impossible
    cases impossible

variable {failure : Failure}

theorem story_of_refused
    (told : Told inner states ((acts.findSome? h.mappedBy).map UserIdentity.isAdministrator).toList [])
    (order : states <+: path) (isLogin : failure.isLogin = true) :
    Story h acts (.error failure)
      (logsOf (.span (.start spanName) :: (inner ++ failed (states.getLast?.getD .receivedCallback) failure)))
      (spansOf (.span (.start spanName) :: (inner ++ failed (states.getLast?.getD .receivedCallback) failure)))
      states (closed inner (loginEvents failure.kind)) := by
  obtain ⟨logs, ends⟩ := failed_of_isLogin isLogin
  have inside : ∀ event ∈ loginEvents failure.kind, event.isInner = true := by simp [loginEvents, Span.Event.isInner]
  have undecided : Span.valuesOf "openid.administrator" (loginEvents failure.kind) = [] := by
    simp [Span.valuesOf, loginEvents, administrator_ne_state]
  have failing : Span.valuesOf stateAttribute (loginEvents failure.kind) = [.text "failed"] := by
    simp [Span.valuesOf, loginEvents]
  refine ⟨?_, order, told.spansOf_eq ends inside, told.decided_closed _ undecided, ?_, ?_, ?_⟩
  · refine told.statesTold_closed ?_
    rw [logs]
    refine List.filterMap_cons_none (LogRecord.state?_of_level ?_)
    intro debug
    cases debug
  · intro impossible
    cases impossible
  · intro other same _
    cases same
    refine ⟨?_, ?_, ?_, ?_⟩
    · rw [told.failuresTold_closed, logs]
      exact List.filter_cons_of_pos (startsWith_loginWarning _ failure)
    · exact told.state_closed.trans (by rw [failing]; rfl)
    · exact told.status_closed
    · exact told.failures_closed
  · intro other same notLogin
    cases same
    cases isLogin.symm.trans notLogin

theorem story_of_raised
    (told : Told inner states ((acts.findSome? h.mappedBy).map UserIdentity.isAdministrator).toList [])
    (order : states <+: path) (notLogin : failure.isLogin = false) :
    Story h acts (.error failure)
      (logsOf (.span (.start spanName) :: (inner ++ failed (states.getLast?.getD .receivedCallback) failure)))
      (spansOf (.span (.start spanName) :: (inner ++ failed (states.getLast?.getD .receivedCallback) failure)))
      states (closed inner [.failure failure.kind, .status .error]) := by
  obtain ⟨logs, ends⟩ := failed_of_not_isLogin notLogin
  have inside : ∀ event ∈ [Span.Event.failure failure.kind, .status .error], event.isInner = true := by
    simp [Span.Event.isInner]
  refine ⟨?_, order, told.spansOf_eq ends inside, told.decided_closed _ rfl, ?_, ?_, ?_⟩
  · exact told.statesTold_closed (by rw [logs]; rfl)
  · intro impossible
    cases impossible
  · intro other same isLogin
    cases same
    cases notLogin.symm.trans isLogin
  · intro other same _
    cases same
    refine ⟨?_, ?_, ?_, ?_⟩
    · rw [told.failuresTold_closed, logs]
      rfl
    · exact told.state_closed
    · exact told.status_closed
    · exact told.failures_closed

end Ending

-- Every run of a callback tells its story.
theorem story_of_runs {result : Except Failure Text} (runs : Runs (h.handle query request expected) history result) :
    ∃ outcome states span,
      Course h query request expected (traceOf CallbackEffect.isAct history) outcome
        ∧ result = outcome.bind (fun () => h.successUrl)
        ∧ Story h (traceOf CallbackEffect.isAct history) outcome (logsOf (notesIn history)) (spansOf (notesIn history))
          states span := by
  obtain ⟨body, state, outcome, stepped, rfl, rfl⟩ := runs_handle runs
  have course := leaves_steps.1 ⟨state, stepped.leaves⟩
  obtain ⟨order, done, statuses, decisions⟩ := course.states
  obtain ⟨notes, rfl⟩ := runs_steps stepped
  have told := told_steps h query expected (traceOf CallbackEffect.isAct body)
  rw [← notes, statuses, decisions] at told
  rw [traceOf_append, traceOf_append, traceOf_noted, traceOf_noted, notesIn_append, notesIn_append, notesIn_noted,
    notesIn_noted, List.append_nil]
  cases outcome with
  | ok _ =>
    rw [done rfl] at told ⊢
    exact ⟨_, _, _, course, rfl, story_of_done told⟩
  | error failure =>
    cases isLogin : failure.isLogin with
    | true => exact ⟨_, _, _, course, rfl, story_of_refused told order isLogin⟩
    | false => exact ⟨_, _, _, course, rfl, story_of_raised told order isLogin⟩

end CallbackHandler

end OidcLogin
