import OidcLogin.Callback.Handler
import OidcLogin.Manager.Effect
import OidcLogin.Proofs.Program.Interpreted
import OidcLogin.Proofs.Program.Pool

namespace OidcLogin

open Program

namespace SharedProgram

variable {σ Effect : Type} {Reply : Effect → Type} {α β : Type}

def apart (program : Program Effect Reply α) : SharedProgram σ Effect Reply α :=
  program.interpret fun effect => .ask (.own effect) .done

def look : SharedProgram σ Effect Reply σ := .ask .read .done

theorem settled_apart (state : σ) (program : Program Effect Reply α) :
    settled state (apart program : SharedProgram σ Effect Reply α) = program := by
  induction program with
  | done result => rfl
  | ask effect next ih =>
    change Program.ask effect (fun reply => settled state (apart (next reply))) = _
    simp only [ih]

theorem settled_bind (state : σ) (program : SharedProgram σ Effect Reply α)
    (f : α → SharedProgram σ Effect Reply β) :
    settled state (program >>= f) = settled state program >>= fun value => settled state (f value) := by
  unfold settled
  apply interpret_bind

theorem settled_look (state : σ) (f : σ → SharedProgram σ Effect Reply α) :
    settled state (look >>= f) = settled state (f state) := rfl

theorem onlyReads_apart (program : Program Effect Reply α) :
    OnlyReads (apart program : SharedProgram σ Effect Reply α) := by
  apply asks_interpret (asks_anything program)
  intro effect _
  exact .ask trivial fun _ => .done trivial

theorem onlyReads_look : OnlyReads (look : SharedProgram σ Effect Reply σ) :=
  .ask trivial fun _ => .done trivial

end SharedProgram

-- What callbacks share: the handler, and the client that answers for the protocol.
structure SharedHandler where
  handler : CallbackHandler
  client : OidcClient

structure CallbackCall where
  query : Text
  request : CallbackRequest
  expected : Option Text

variable {User : Type}

abbrev SharedCallback (User α : Type) := SharedProgram SharedHandler (LoginEffect User) LoginEffect.Reply α

namespace SharedHandler

open SharedProgram CallbackHandler

def callback (shared : SharedHandler) (call : CallbackCall) : LoginProgram User (Except Failure Text) :=
  (shared.handler.handle call.query call.request call.expected).withClient shared.client

def note (notes : List Note) : SharedCallback User Unit := apart (NetProgram.noteAll notes).lift

-- The steps of a callback; each looks at the handler anew.
def steps (call : CallbackCall) : SharedCallback User (CallbackState × Except Failure Unit) := do
  let redirectUri := (← look).handler.redirectUri call.request
  match Callback.parse call.query call.expected with
  | .error failure => return (.receivedCallback, .error failure)
  | .ok code =>
    note (reached .parsedResponse)
    match ← apart ((← look).client.exchangeCode code redirectUri).lift with
    | .error failure => return (.parsedResponse, .error failure)
    | .ok token =>
      note (reached .codeExchanged)
      match ← apart ((← look).client.fetchUserInfo token.accessToken).lift with
      | .error failure => return (.codeExchanged, .error failure)
      | .ok claims =>
        note (reached .userInfoFetched)
        match (← look).handler.mapper.mapClaims claims with
        | (notes, .error failure) =>
          note notes
          return (.userInfoFetched, .error failure)
        | (notes, .ok identity) =>
          note (notes ++ administratorNote identity.isAdministrator :: reached .authorizationDecided)
          apart ((handOver call.request identity).withClient (← look).client)

def handle (call : CallbackCall) : SharedCallback User (Except Failure Text) := do
  note [.span (.start spanName)]
  match ← steps call with
  | (state, .error failure) =>
    note (failed state failure)
    return .error failure
  | (_, .ok ()) =>
    note [.span .finish, .info "OpenID login succeeded"]
    return (← look).handler.successUrl

theorem onlyReads_note (notes : List Note) : OnlyReads (note notes : SharedCallback User Unit) :=
  onlyReads_apart _

theorem onlyReads_steps (call : CallbackCall) :
    OnlyReads (steps call : SharedCallback User (CallbackState × Except Failure Unit)) := by
  apply asks_bind onlyReads_look
  intro shared
  dsimp only
  cases Callback.parse call.query call.expected with
  | error failure => exact .done trivial
  | ok code =>
    apply asks_bind (onlyReads_note _)
    intro _
    apply asks_bind onlyReads_look
    intro shared
    apply asks_bind (onlyReads_apart _)
    intro exchanged
    cases exchanged with
    | error failure => exact .done trivial
    | ok token =>
      apply asks_bind (onlyReads_note _)
      intro _
      apply asks_bind onlyReads_look
      intro shared
      apply asks_bind (onlyReads_apart _)
      intro fetched
      cases fetched with
      | error failure => exact .done trivial
      | ok claims =>
        apply asks_bind (onlyReads_note _)
        intro _
        apply asks_bind onlyReads_look
        intro shared
        rcases shared.handler.mapper.mapClaims claims with ⟨notes, failure | identity⟩
        · apply asks_bind (onlyReads_note _)
          intro _
          exact .done trivial
        · apply asks_bind (onlyReads_note _)
          intro _
          apply asks_bind onlyReads_look
          intro shared
          apply onlyReads_apart

theorem onlyReads_handle (call : CallbackCall) :
    OnlyReads (handle call : SharedCallback User (Except Failure Text)) := by
  apply asks_bind (onlyReads_note _)
  intro _
  apply asks_bind (onlyReads_steps call)
  intro ended
  rcases ended with ⟨state, failure | _⟩
  · apply asks_bind (onlyReads_note _)
    intro _
    exact .done trivial
  · apply asks_bind (onlyReads_note _)
    intro _
    apply asks_bind onlyReads_look
    intro shared
    exact .done trivial

section Alone

variable {shared : SharedHandler} {α : Type}

theorem withClient_bind {β : Type} (client : OidcClient) (program : CallbackProgram User α)
    (f : α → CallbackProgram User β) :
    (program >>= f).withClient client = program.withClient client >>= fun value => (f value).withClient client := by
  unfold CallbackProgram.withClient
  apply interpret_bind

theorem withClient_noteAll (client : OidcClient) (notes : List Note) :
    (CallbackProgram.noteAll notes : CallbackProgram User Unit).withClient client
      = (NetProgram.noteAll notes).lift := by
  induction notes with
  | nil => rfl
  | cons n rest ih =>
    change Program.ask (.net (.note n)) (fun _ => (CallbackProgram.noteAll rest).withClient client)
      = Program.ask (.net (.note n)) fun _ => (NetProgram.noteAll rest).lift
    rw [ih]

theorem settled_noted (notes : List Note) {next : SharedCallback User α} {other : CallbackProgram User α}
    (same : settled shared next = other.withClient shared.client) :
    settled shared (note notes >>= fun _ => next)
      = (CallbackProgram.noteAll notes >>= fun _ => other).withClient shared.client := by
  rw [settled_bind, withClient_bind, withClient_noteAll, same]
  unfold note
  rw [settled_apart]

theorem settled_operation (effect : CallbackEffect User) {program : NetProgram effect.Reply}
    (means : shared.client.answer effect = program.lift) {next : effect.Reply → SharedCallback User α}
    {other : effect.Reply → CallbackProgram User α}
    (same : ∀ reply, settled shared (next reply) = (other reply).withClient shared.client) :
    settled shared (apart program.lift >>= next)
      = CallbackProgram.withClient shared.client (.ask effect other) := by
  rw [settled_bind, settled_apart, funext same]
  change _ = shared.client.answer effect >>= fun reply => (other reply).withClient shared.client
  rw [means]

theorem settled_steps (call : CallbackCall) :
    settled shared (steps call : SharedCallback User (CallbackState × Except Failure Unit))
      = (shared.handler.steps call.query call.request call.expected).withClient shared.client := by
  unfold steps CallbackHandler.steps
  rw [settled_look]
  cases Callback.parse call.query call.expected with
  | error failure => rfl
  | ok code =>
    apply settled_noted
    rw [settled_look]
    apply settled_operation (.exchangeCode code _) rfl
    intro exchanged
    cases exchanged with
    | error failure => rfl
    | ok token =>
      apply settled_noted
      rw [settled_look]
      apply settled_operation (.fetchUserInfo token.accessToken) rfl
      intro fetched
      cases fetched with
      | error failure => rfl
      | ok claims =>
        apply settled_noted
        rw [settled_look]
        rcases shared.handler.mapper.mapClaims claims with ⟨notes, failure | identity⟩
        · apply settled_noted
          rfl
        · apply settled_noted
          rw [settled_look, settled_apart]

-- Where the handler stays the same, it is the callback of this handler.
theorem settled_handle (call : CallbackCall) :
    settled shared (handle call : SharedCallback User (Except Failure Text)) = shared.callback call := by
  unfold handle callback CallbackHandler.handle
  apply settled_noted
  rw [settled_bind, settled_steps, withClient_bind]
  congr 1
  funext ended
  rcases ended with ⟨state, failure | _⟩
  · apply settled_noted
    rfl
  · apply settled_noted
    rfl

end Alone

end SharedHandler

end OidcLogin
