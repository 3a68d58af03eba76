import OidcLogin.Manager.Effect
import OidcLogin.Proofs.Callback.Course
import OidcLogin.Proofs.Client.Requests

namespace OidcLogin

open Program

variable {User : Type}

abbrev LoginExchange (User : Type) := Exchange (LoginEffect.Reply : LoginEffect User → Type)

def LoginEffect.isAct : LoginEffect User → Bool
  | .net effect => effect.isAct
  | _ => true

def LoginEffect.isHost : LoginEffect User → Bool
  | .login .. | .establish .. | .audit .. => true
  | _ => false

theorem LoginEffect.isAct_of_isHost {effect : LoginEffect User} (isHost : effect.isHost = true) :
    effect.isAct = true := by
  cases effect with
  | net _ | draw _ => cases isHost
  | login _ _ _ | establish _ _ | audit _ _ => rfl

namespace NetProgram

def lifted (exchange : NetExchange) : LoginExchange User := ⟨.net exchange.1, exchange.2⟩

theorem leaves_lift {α : Type} {program : NetProgram α} {trace : List (LoginExchange User)}
    {result : α} :
    Leaves LoginEffect.isAct (lift program) trace result
      ↔ ∃ sent, Leaves NetEffect.isAct program sent result ∧ trace = sent.map lifted := by
  induction program generalizing trace with
  | done value =>
    change Leaves LoginEffect.isAct (.done value) trace result ↔ _
    simp only [leaves_done]
    constructor
    · intro given
      obtain ⟨rfl, rfl⟩ := given
      exact ⟨[], ⟨rfl, rfl⟩, rfl⟩
    · intro given
      obtain ⟨_, ⟨rfl, rfl⟩, rfl⟩ := given
      exact ⟨rfl, rfl⟩
  | ask effect next ih =>
    change Leaves LoginEffect.isAct (.ask (.net effect) fun reply => lift (next reply)) trace result ↔ _
    cases act : effect.isAct with
    | true =>
      have outer : LoginEffect.isAct (.net effect : LoginEffect User) = true := act
      rw [leaves_kept outer]
      constructor
      · intro given
        obtain ⟨reply, rest, rfl, after⟩ := given
        obtain ⟨sent, left, rfl⟩ := ih reply |>.1 after
        exact ⟨⟨effect, reply⟩ :: sent, .asked act left, rfl⟩
      · intro given
        obtain ⟨_, left, rfl⟩ := given
        obtain ⟨reply, rest, rfl, after⟩ := (leaves_kept act).1 left
        exact ⟨reply, rest.map lifted, rfl, (ih reply).2 ⟨rest, after, rfl⟩⟩
    | false =>
      have outer : LoginEffect.isAct (.net effect : LoginEffect User) = false := act
      rw [leaves_dropped outer]
      constructor
      · intro given
        obtain ⟨reply, after⟩ := given
        obtain ⟨sent, left, same⟩ := (ih reply).1 after
        exact ⟨sent, (leaves_dropped act).2 ⟨reply, left⟩, same⟩
      · intro given
        obtain ⟨sent, left, same⟩ := given
        obtain ⟨reply, after⟩ := (leaves_dropped act).1 left
        exact ⟨reply, (ih reply).2 ⟨sent, after, same⟩⟩

theorem isHost_of_mem_lifted {sent : List NetExchange} {exchange : LoginExchange User}
    (member : exchange ∈ sent.map lifted) : exchange.1.isHost = false := by
  obtain ⟨_, _, rfl⟩ := List.mem_map.1 member
  rfl

end NetProgram

namespace CallbackHandler

variable {h : CallbackHandler} {query : Text} {request : CallbackRequest} {expected : Option Text}
  {client : OidcClient} {trace : List (LoginExchange User)} {result : Except Failure Text}

theorem leaves_withClient :
    Leaves LoginEffect.isAct ((h.handle query request expected).withClient client) trace result
      ↔ ∃ acts outcome, Course h query request expected acts outcome
          ∧ result = outcome.bind (fun () => h.successUrl)
          ∧ Expands LoginEffect.isAct client.answer acts trace := by
  have silent : ∀ effect : CallbackEffect User, effect.isAct = false →
      ∀ trace reply, Leaves LoginEffect.isAct (client.answer effect) trace reply ↔ trace = [] := by
    intro effect note trace reply
    cases effect with
    | note n =>
      change Leaves LoginEffect.isAct (.ask (.net (.note n)) .done) trace reply ↔ _
      rw [leaves_dropped rfl]
      constructor
      · intro given
        obtain ⟨_, after⟩ := given
        exact (leaves_done.1 after).1
      · intro empty
        exact ⟨reply, leaves_done.2 ⟨empty, rfl⟩⟩
    | exchangeCode _ _ | fetchUserInfo _ | login _ _ _ | establish _ _ | audit _ _ => cases note
  unfold CallbackProgram.withClient
  rw [leaves_interpret silent]
  simp only [leaves_handle]
  constructor
  · intro given
    obtain ⟨acts, ⟨outcome, course, same⟩, expanded⟩ := given
    exact ⟨acts, outcome, course, same, expanded⟩
  · intro given
    obtain ⟨acts, outcome, course, same, expanded⟩ := given
    exact ⟨acts, ⟨outcome, course, same⟩, expanded⟩

-- What an operation of the client stands for in the trace is what it sent.
theorem expands_lifted {effect : CallbackEffect User} {program : NetProgram effect.Reply}
    (means : client.answer effect = program.lift) {reply : effect.Reply}
    {acts : List (CallbackExchange User)} :
    Expands LoginEffect.isAct client.answer (⟨effect, reply⟩ :: acts) trace
      ↔ ∃ sent rest, trace = sent.map NetProgram.lifted ++ rest
          ∧ Leaves NetEffect.isAct program sent reply
          ∧ Expands LoginEffect.isAct client.answer acts rest := by
  rw [expands_cons, means]
  constructor
  · intro given
    obtain ⟨_, rest, rfl, asked, later⟩ := given
    obtain ⟨sent, left, rfl⟩ := NetProgram.leaves_lift.1 asked
    exact ⟨sent, rest, rfl, left, later⟩
  · intro given
    obtain ⟨sent, rest, rfl, left, later⟩ := given
    exact ⟨_, rest, rfl, NetProgram.leaves_lift.2 ⟨sent, left, rfl⟩, later⟩

theorem expands_login {email name : Text} {administrator : Bool} {reply : Except Failure User}
    {acts : List (CallbackExchange User)} :
    Expands LoginEffect.isAct client.answer (⟨.login email name administrator, reply⟩ :: acts) trace
      ↔ ∃ rest, trace = ⟨.login email name administrator, reply⟩ :: rest
          ∧ Expands LoginEffect.isAct client.answer acts rest := by
  rw [expands_cons]
  constructor
  · intro given
    obtain ⟨_, rest, rfl, asked, later⟩ := given
    obtain rfl := (leaves_asked rfl).1 asked
    exact ⟨rest, rfl, later⟩
  · intro given
    obtain ⟨rest, rfl, later⟩ := given
    exact ⟨[_], rest, rfl, (leaves_asked rfl).2 rfl, later⟩

theorem TakesOver.begins {identity : UserIdentity} {acts : List (CallbackExchange User)}
    {outcome : Except Failure Unit} (taken : TakesOver request identity acts outcome)
    (expanded : Expands LoginEffect.isAct client.answer acts trace) :
    ∃ reply rest, trace
      = ⟨.login identity.email identity.displayName identity.isAdministrator, reply⟩ :: rest := by
  have first : ∃ reply later, acts
      = ⟨.login identity.email identity.displayName identity.isAdministrator, reply⟩ :: later := by
    cases taken with
    | unknown failure => exact ⟨_, _, rfl⟩
    | unbound user failure => exact ⟨_, _, rfl⟩
    | unrecorded user failure => exact ⟨_, _, rfl⟩
    | taken user => exact ⟨_, _, rfl⟩
  obtain ⟨reply, later, rfl⟩ := first
  obtain ⟨rest, rfl, _⟩ := expands_login.1 expanded
  exact ⟨reply, rest, rfl⟩

-- The steps behind the first question to the host application, with what each of them gave and sent.
structure Approach (h : CallbackHandler) (query : Text) (request : CallbackRequest)
    (expected : Option Text) (client : OidcClient) (trace : List (LoginExchange User))
    (code : Text) (token : TokenResponse) (claims : Members) (identity : UserIdentity)
    (exchanged fetched : List NetExchange) : Prop where
  parsed : Callback.parse query expected = .ok code
  exchange : Leaves NetEffect.isAct (client.exchangeCode code (h.redirectUri request)) exchanged (.ok token)
  fetch : Leaves NetEffect.isAct (client.fetchUserInfo token.accessToken) fetched (.ok claims)
  mapped : (h.mapper.mapClaims claims).2 = .ok identity
  order : ∃ reply rest, trace = exchanged.map NetProgram.lifted ++ (fetched.map NetProgram.lifted
    ++ ⟨.login identity.email identity.displayName identity.isAdministrator, reply⟩ :: rest)

theorem Course.approach {acts : List (CallbackExchange User)} {outcome : Except Failure Unit}
    (course : Course h query request expected acts outcome)
    (expanded : Expands LoginEffect.isAct client.answer acts trace)
    (asked : ∃ exchange ∈ trace, exchange.1.isHost = true) :
    ∃ code token claims identity exchanged fetched,
      Approach h query request expected client trace code token claims identity exchanged fetched := by
  obtain ⟨exchange, member, isHost⟩ := asked
  have notSent : ∀ sent : List NetExchange, exchange ∉ sent.map NetProgram.lifted := by
    intro sent inside
    rw [NetProgram.isHost_of_mem_lifted inside] at isHost
    cases isHost
  cases course with
  | unread read =>
    obtain rfl := expands_nil.1 expanded
    cases member
  | unexchanged read failure =>
    obtain ⟨exchanged, _, rfl, _, nothing⟩ := (expands_lifted rfl).1 expanded
    obtain rfl := expands_nil.1 nothing
    rw [List.append_nil] at member
    exact absurd member (notSent exchanged)
  | unfetched read token failure =>
    obtain ⟨exchanged, _, rfl, _, claimed⟩ := (expands_lifted rfl).1 expanded
    obtain ⟨fetched, _, rfl, _, nothing⟩ := (expands_lifted rfl).1 claimed
    obtain rfl := expands_nil.1 nothing
    rw [List.append_nil, ← List.map_append] at member
    exact absurd member (notSent _)
  | refused read token mapped =>
    obtain ⟨exchanged, _, rfl, _, claimed⟩ := (expands_lifted rfl).1 expanded
    obtain ⟨fetched, _, rfl, _, nothing⟩ := (expands_lifted rfl).1 claimed
    obtain rfl := expands_nil.1 nothing
    rw [List.append_nil, ← List.map_append] at member
    exact absurd member (notSent _)
  | admitted read token mapped after =>
    obtain ⟨exchanged, _, rfl, exchange, claimed⟩ := (expands_lifted rfl).1 expanded
    obtain ⟨fetched, _, rfl, fetch, taken⟩ := (expands_lifted rfl).1 claimed
    obtain ⟨reply, rest, rfl⟩ := after.begins taken
    exact ⟨_, token, _, _, exchanged, fetched, read, exchange, fetch, mapped, reply, rest, rfl⟩

end CallbackHandler

namespace Sample

def handler : CallbackHandler := .ofConfig config

theorem parse_code : Callback.parse "code=abc" none = .ok "abc" := except_eq_ok_of_toOption (by decide +kernel)

def request : CallbackRequest := ⟨[]⟩

end Sample

end OidcLogin
