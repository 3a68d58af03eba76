import OidcLogin.Proofs.Callback.Story
import OidcLogin.Proofs.Callback.WithClient
import OidcLogin.Proofs.Client.Sends
import OidcLogin.Proofs.Identity.Mapping

namespace OidcLogin

open Program

variable {User : Type}

-- A plain record that is about neither a state nor a failed login.
def Note.isForeign : Note → Bool
  | .log record => record.state?.isNone && !record.message.startsWith failureMark
  | .span _ => false

def ownNotes (notes : List Note) : List Note := notes.filter fun n => !n.isForeign

section Foreign

variable {notes others : List Note}

theorem filterMap_ownNotes {β : Type} {f : Note → Option β} (blind : ∀ n, n.isForeign = true → f n = none)
    (notes : List Note) : (ownNotes notes).filterMap f = notes.filterMap f := by
  induction notes with
  | nil => rfl
  | cons n notes ih =>
    unfold ownNotes at ih ⊢
    cases foreign : n.isForeign with
    | true => rw [List.filter_cons_of_neg (by simp [foreign]), List.filterMap_cons_none (blind n foreign), ih]
    | false =>
      rw [List.filter_cons_of_pos (by simp [foreign]), List.filterMap_cons, List.filterMap_cons, ih]

theorem statesTold_ownNotes (notes : List Note) : statesTold (logsOf (ownNotes notes)) = statesTold (logsOf notes) := by
  unfold statesTold logsOf
  rw [List.filterMap_filterMap, List.filterMap_filterMap]
  refine filterMap_ownNotes (fun n foreign => ?_) notes
  cases n with
  | span event => cases foreign
  | log record => exact Option.isNone_iff_eq_none.1 (Bool.and_eq_true_iff.1 foreign).1

theorem failuresTold_ownNotes (notes : List Note) :
    failuresTold (logsOf (ownNotes notes)) = failuresTold (logsOf notes) := by
  unfold failuresTold logsOf
  rw [List.filter_filterMap, List.filter_filterMap]
  refine filterMap_ownNotes (fun n foreign => ?_) notes
  cases n with
  | span event => cases foreign
  | log record =>
    have silent := (Bool.and_eq_true_iff.1 foreign).2
    simp only [Bool.not_eq_eq_eq_not, Bool.not_true] at silent
    simp [Note.log?, Option.filter, silent]

theorem spansOf_ownNotes (notes : List Note) : spansOf (ownNotes notes) = spansOf notes := by
  unfold spansOf
  rw [filterMap_ownNotes]
  intro n foreign
  cases n with
  | span event => cases foreign
  | log record => rfl

-- The story is the same whatever others noted in between.
theorem CallbackHandler.Story.of_ownNotes {h : CallbackHandler} {acts : List (CallbackExchange User)}
    {outcome : Except Failure Unit} {states : List CallbackState} {span : Span}
    (same : ownNotes notes = ownNotes others)
    (story : Story h acts outcome (logsOf notes) (spansOf notes) states span) :
    Story h acts outcome (logsOf others) (spansOf others) states span := by
  have told : statesTold (logsOf notes) = statesTold (logsOf others) := by
    rw [← statesTold_ownNotes, same, statesTold_ownNotes]
  have failures : failuresTold (logsOf notes) = failuresTold (logsOf others) := by
    rw [← failuresTold_ownNotes, same, failuresTold_ownNotes]
  have spans : spansOf notes = spansOf others := by rw [← spansOf_ownNotes, same, spansOf_ownNotes]
  obtain ⟨records, order, only, administrator, completed, refused, raised⟩ := story
  rw [told] at records
  rw [failures] at completed
  simp only [failures] at refused raised
  exact ⟨records, order, spans ▸ only, administrator, completed, refused, raised⟩

end Foreign

def NetEffect.IsQuiet : NetEffect → Prop
  | .note n => n.isForeign = true
  | _ => True

def LoginEffect.note? : LoginEffect User → Option Note
  | .net (.note n) => some n
  | _ => none

def LoginEffect.IsQuiet (effect : LoginEffect User) : Prop := ∀ n ∈ effect.note?, n.isForeign = true

def loginNotes (history : List (LoginExchange User)) : List Note := history.filterMap (·.1.note?)

structure OidcClient.IsQuiet (client : OidcClient) : Prop where
  exchange : ∀ code redirectUri, Asks NetEffect.IsQuiet (client.exchangeCode code redirectUri)
  fetch : ∀ accessToken, Asks NetEffect.IsQuiet (client.fetchUserInfo accessToken)

theorem isForeign_of_message {level : LogLevel} {message : Text} (apart : level ≠ .debug)
    (silent : message.startsWith failureMark = false) : Note.isForeign (.log ⟨level, message⟩) = true := by
  have noState : LogRecord.state? ⟨level, message⟩ = none := if_neg fun given => apart given.1
  unfold Note.isForeign
  dsimp only
  rw [noState, silent]
  rfl

theorem Text.startsWith_of_head {t start : Text} (full : start ≠ []) (apart : t.head? ≠ start.head?) :
    t.startsWith start = false := by
  refine eq_false_of_ne_true fun begins => apart ?_
  obtain ⟨rest, rfl⟩ := List.isPrefixOf_iff_prefix.1 begins
  rw [List.head?_append, List.head?_eq_some_head full, Option.some_or]

theorem isForeign_of_words {level : LogLevel} {words : Text} (rest : Text) (apart : level ≠ .debug)
    (full : words ≠ []) (other : words.head? ≠ failureMark.head?) :
    ∀ n ∈ [Note.log ⟨level, words ++ rest⟩], n.isForeign = true := by
  refine List.forall_mem_cons.2 ⟨isForeign_of_message apart ?_, List.forall_mem_nil _⟩
  refine Text.startsWith_of_head (by decide) ?_
  rw [List.head?_append, List.head?_eq_some_head full, Option.some_or]
  rwa [List.head?_eq_some_head full] at other

theorem isForeign_of_fault {α : Type} {words : Text} {first second third : α} (endpoint : Text)
    (fault : Http.FetchFault) (full : words ≠ []) (other : words.head? ≠ failureMark.head?) :
    ∀ n ∈ (if fault.isNetwork then ([Note.error (words ++ endpoint ++ " failed: " ++ fault.message)], first)
      else if fault.isValue then ([], second) else ([], third)).1, n.isForeign = true := by
  split
  · unfold Note.error
    rw [List.append_assoc, List.append_assoc]
    exact isForeign_of_words _ nofun full other
  · split
    · exact List.forall_mem_nil _
    · exact List.forall_mem_nil _

theorem TokenExchange.isForeign_ofResponse (response : Http.Response) (document : Json) :
    ∀ n ∈ (ofResponse response document).1, n.isForeign = true := by
  unfold ofResponse
  dsimp only
  refine iteInduction (motive := fun told => ∀ n : Note, n ∈ Prod.fst told → n.isForeign = true) (fun _ => ?_)
    fun _ => ?_
  · exact isForeign_of_words _ nofun (by decide) (by decide)
  · cases document with
    | object members => exact List.forall_mem_nil _
    | null | bool _ | int _ | float _ | text _ | list _ => exact List.forall_mem_nil _

theorem TokenExchange.isForeign_ofFetch {endpoint : Text} (fetched : Except Http.FetchFault (Http.Response × Json)) :
    ∀ n ∈ (ofFetch endpoint fetched).1, n.isForeign = true := by
  match fetched with
  | .error fault => exact isForeign_of_fault endpoint fault (by decide) (by decide)
  | .ok (response, document) =>
    rw [ofFetch_ok_notes]
    exact isForeign_ofResponse response document

theorem UserInfo.isForeign_ofResponse (response : Http.Response) (document : Json) :
    ∀ n ∈ (ofResponse response document).1, n.isForeign = true := by
  unfold ofResponse
  split
  · exact isForeign_of_words _ nofun (by decide) (by decide)
  · split
    · exact List.forall_mem_nil _
    · exact List.forall_mem_nil _

theorem UserInfo.isForeign_ofFetch {endpoint : Text} (fetched : Except Http.FetchFault (Http.Response × Json)) :
    ∀ n ∈ (ofFetch endpoint fetched).1, n.isForeign = true := by
  match fetched with
  | .error fault => exact isForeign_of_fault endpoint fault (by decide) (by decide)
  | .ok (response, document) =>
    rw [ofFetch_ok_notes]
    exact isForeign_ofResponse response document

theorem OidcClient.isQuiet_overHttp (config : ProviderConfig) (client : HttpClient) :
    (OidcClient.overHttp config client).IsQuiet where
  exchange _ _ := TokenExchange.only_exchange TokenExchange.isForeign_ofFetch fun _ _ _ _ _ => trivial
  fetch _ := UserInfo.only_fetch UserInfo.isForeign_ofFetch fun _ _ => trivial

theorem traceOf_all {Effect : Type} {Reply : Effect → Type} (history : List (Exchange Reply)) :
    traceOf (fun _ => true) history = history := List.filter_eq_self.2 fun _ _ => rfl

theorem CallbackProgram.runs_withClient {α : Type} {program : CallbackProgram User α} {client : OidcClient}
    {history : List (LoginExchange User)} {result : α} :
    Runs (program.withClient client) history result
      ↔ ∃ outer, Runs program outer result ∧ Expands (fun _ => true) client.answer outer history := by
  have whole : Leaves (fun _ => true) (program.withClient client) history result
      ↔ ∃ outer, Leaves (fun _ => true) program outer result ∧ Expands (fun _ => true) client.answer outer history :=
    leaves_interpret fun _ impossible => nomatch impossible
  unfold Leaves at whole
  simp only [traceOf_all, exists_eq_right] at whole
  exact whole

section Expanded

variable {client : OidcClient} {outer : List (CallbackExchange User)} {inner : List (LoginExchange User)}

theorem ownNotes_of_lift {α : Type} {program : NetProgram α} {result : α} (quiet : Asks NetEffect.IsQuiet program)
    (left : Leaves (fun _ => true) (program.lift : LoginProgram User α) inner result) :
    ownNotes (loginNotes inner) = [] := by
  obtain ⟨history, runs, rfl⟩ := left
  have lifted : Asks LoginEffect.IsQuiet (program.lift : LoginProgram User α) := by
    refine asks_interpret quiet fun effect foreign => .ask (fun n told => ?_) fun _ => .done trivial
    cases effect with
    | note other =>
      cases told
      exact foreign
    | send _ _ | openClient _ | closeClient _ => cases told
  refine List.filter_eq_nil_iff.2 fun n member => ?_
  obtain ⟨exchange, asked, told⟩ := List.mem_filterMap.1 member
  rw [traceOf_all] at asked
  rw [(lifted.of_runs runs).1 exchange asked n told]
  exact Bool.false_ne_true

-- One exchange of a callback and what it stands for have the same notes, but for those of others.
theorem ownNotes_of_answer (quiet : client.IsQuiet) {effect : CallbackEffect User} {reply : effect.Reply}
    (left : Leaves (fun _ => true) (client.answer effect) inner reply) :
    ownNotes (loginNotes inner) = ownNotes (notesIn [⟨effect, reply⟩]) := by
  cases effect with
  | exchangeCode code redirectUri => exact ownNotes_of_lift (quiet.exchange code redirectUri) left
  | fetchUserInfo accessToken => exact ownNotes_of_lift (quiet.fetch accessToken) left
  | note _ | login _ _ _ | establish _ _ | audit _ _ =>
    obtain rfl := (leaves_asked rfl).1 left
    rfl

theorem ownNotes_of_expands (quiet : client.IsQuiet) (expanded : Expands (fun _ => true) client.answer outer inner) :
    ownNotes (loginNotes inner) = ownNotes (notesIn outer) := by
  induction expanded with
  | nil => rfl
  | @cons effect reply outer first second one rest ih =>
    have both : loginNotes (first ++ second) = loginNotes first ++ loginNotes second := List.filterMap_append
    have told : notesIn (⟨effect, reply⟩ :: outer) = notesIn [⟨effect, reply⟩] ++ notesIn outer :=
      notesIn_append [⟨effect, reply⟩] outer
    unfold ownNotes at ih ⊢
    rw [both, told, List.filter_append, List.filter_append, ih]
    exact congrArg (· ++ _) (ownNotes_of_answer quiet one)

end Expanded

namespace CallbackHandler

variable {h : CallbackHandler} {query : Text} {request : CallbackRequest} {expected : Option Text}

theorem isLogin_of_result {outcome : Except Failure Unit} {failure : Failure} (isLogin : failure.isLogin = true) :
    outcome.bind (fun () => h.successUrl) = .error failure ↔ outcome = .error failure := by
  cases outcome with
  | error other =>
    constructor
    · intro same
      cases same
      rfl
    · intro same
      cases same
      rfl
  | ok _ =>
    constructor
    · intro after
      change h.successUrl = .error failure at after
      unfold successUrl at after
      cases resolved : Url.resolve h.config.baseUrl successReference with
      | ok url =>
        rw [resolved] at after
        cases after
      | error fault =>
        rw [resolved] at after
        cases after
        cases isLogin
    · intro impossible
      cases impossible

-- Whoever answers, a callback tells its story: in the notes of its own, and among those of a client over HTTP.
theorem callbacks_tell_their_story (h : CallbackHandler) (query : Text) (request : CallbackRequest)
    (expected : Option Text) :
    (∀ (history : List (CallbackExchange User)) (result : Except Failure Text),
        Runs (h.handle query request expected) history result →
        ∃ outcome states span,
          Course h query request expected (traceOf CallbackEffect.isAct history) outcome
            ∧ result = outcome.bind (fun () => h.successUrl)
            ∧ (∀ failure, failure.isLogin = true → (result = .error failure ↔ outcome = .error failure))
            ∧ Story h (traceOf CallbackEffect.isAct history) outcome (logsOf (notesIn history))
              (spansOf (notesIn history)) states span)
      ∧ ∀ (client : HttpClient) (whole : List (LoginExchange User)) (final : Except Failure Text),
          Runs ((h.handle query request expected).withClient (.overHttp h.config client)) whole final →
          ∃ outer outcome states span,
            Expands (fun _ => true) (OidcClient.overHttp h.config client).answer outer whole
              ∧ Course h query request expected (traceOf CallbackEffect.isAct outer) outcome
              ∧ final = outcome.bind (fun () => h.successUrl)
              ∧ (∀ failure, failure.isLogin = true → (final = .error failure ↔ outcome = .error failure))
              ∧ Story h (traceOf CallbackEffect.isAct outer) outcome (logsOf (loginNotes whole))
                (spansOf (loginNotes whole)) states span := by
  constructor
  · intro history result runs
    obtain ⟨outcome, states, span, course, rfl, story⟩ := story_of_runs runs
    exact ⟨outcome, states, span, course, rfl, fun _ isLogin => isLogin_of_result isLogin, story⟩
  · intro client whole final runs
    obtain ⟨outer, around, expanded⟩ := CallbackProgram.runs_withClient.1 runs
    obtain ⟨outcome, states, span, course, rfl, story⟩ := story_of_runs around
    have same := ownNotes_of_expands (OidcClient.isQuiet_overHttp h.config client) expanded
    exact ⟨outer, outcome, states, span, expanded, course, rfl, fun _ isLogin => isLogin_of_result isLogin,
      story.of_ownNotes same.symm⟩

theorem callbacks_tell_their_story_of_sample :
    ∃ (history : List (CallbackExchange Text)) (result : Except Failure Text) (whole : List (LoginExchange Text))
      (final : Except Failure Text),
      Runs ((ofConfig Sample.config).handle "code=abc" Sample.request none) history result
        ∧ Runs (((ofConfig Sample.config).handle "code=abc" Sample.request none).withClient
            (.overHttp Sample.config .given)) whole final
        ∧ (∃ span, spansOf (notesIn history) = [span] ∧ span.attribute? "openid.administrator" = some (.bool false))
        ∧ (failuresTold (logsOf (loginNotes whole))).length = 1 := by
  have taken : TakesOver Sample.request Sample.identity _ (.ok ()) := .taken ("al" : Text)
  have mapped : ((ofConfig Sample.config).mapper.mapClaims Sample.claims).2 = .ok Sample.identity :=
    Sample.mapClaims_claims
  obtain ⟨history, runs, acts⟩ :=
    leaves_handle.2 ⟨_, .admitted Sample.parse_code Sample.token mapped taken, rfl⟩
  let fault : Http.FetchFault := .raised ⟨.network "ConnectError", "out of reach"⟩
  let failure : Failure := .token (.unreachable fault)
  have sent : Leaves NetEffect.isAct (TokenExchange.exchange Sample.config .given (some "abc")
      (some Sample.config.callbackUrl)) _ (.error failure) :=
    TokenExchange.leaves_exchange.2 (.inr ⟨_, _, .error fault, Sample.prepare_form Sample.config rfl rfl,
      NetProgram.leaves_fetch.2 (.inr ⟨_, .raised ⟨.network "ConnectError", "out of reach"⟩,
        Sample.prepare_tokenRequest, rfl, rfl⟩), rfl⟩)
  let asked : CallbackExchange Text :=
    ⟨.exchangeCode "abc" ((ofConfig Sample.config).redirectUri Sample.request), .error failure⟩
  have course : Course (ofConfig Sample.config) "code=abc" Sample.request none [asked] _ :=
    .unexchanged Sample.parse_code failure
  have expanded : Expands LoginEffect.isAct (OidcClient.overHttp Sample.config .given).answer [asked] _ :=
    (expands_lifted rfl).2 ⟨_, _, rfl, sent, .nil⟩
  obtain ⟨whole, runsOver, _⟩ := leaves_withClient.2 ⟨_, _, course, rfl, expanded⟩
  obtain ⟨toldOf, overOf⟩ :=
    @callbacks_tell_their_story Text (ofConfig Sample.config) "code=abc" Sample.request none
  obtain ⟨_, outcome, states, span, _, _, final, ended, story⟩ := overOf _ _ _ runsOver
  refine ⟨history, _, whole, _, runs, runsOver, ?_, ?_⟩
  · obtain ⟨outcome, states, span, _, _, _, story⟩ := toldOf _ _ runs
    refine ⟨span, story.spans, ?_⟩
    rw [story.administrator, acts]
    have found : (ofConfig Sample.config).mappedBy
        (⟨.fetchUserInfo Sample.token.accessToken, .ok Sample.claims⟩ : CallbackExchange Text)
        = some Sample.identity := mappedBy_eq mapped
    rw [List.findSome?_cons_of_isNone rfl, List.findSome?_cons, found]
    rfl
  · rw [(story.refused failure ((ended failure rfl).1 rfl) rfl).1]
    rfl

end CallbackHandler

end OidcLogin
