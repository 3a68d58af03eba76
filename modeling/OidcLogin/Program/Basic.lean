namespace OidcLogin

-- Either a result, or a question and what to do with each answer.
inductive Program (Effect : Type) (Reply : Effect → Type) (α : Type)
  | done (result : α)
  | ask (effect : Effect) (next : Reply effect → Program Effect Reply α)

namespace Program

variable {Effect Other : Type} {Reply : Effect → Type} {OtherReply : Other → Type} {α β σ : Type}

def bind : Program Effect Reply α → (α → Program Effect Reply β) → Program Effect Reply β
  | .done result, f => f result
  | .ask effect next, f => .ask effect fun reply => bind (next reply) f

instance : Monad (Program Effect Reply) where
  pure := .done
  bind := bind

def perform (effect : Effect) : Program Effect Reply (Reply effect) := .ask effect .done

def run (answer : (effect : Effect) → σ → Reply effect × σ) : Program Effect Reply α → σ → α × σ
  | .done result, state => (result, state)
  | .ask effect next, state =>
    match answer effect state with
    | (reply, state) => run answer (next reply) state

def interpret (meaning : (effect : Effect) → Program Other OtherReply (Reply effect)) :
    Program Effect Reply α → Program Other OtherReply α
  | .done result => .done result
  | .ask effect next => bind (meaning effect) fun reply => interpret meaning (next reply)

abbrev Exchange (Reply : Effect → Type) := (effect : Effect) × Reply effect

-- The program can ask and be answered in this way, and then has this result.
inductive Runs : Program Effect Reply α → List (Exchange Reply) → α → Prop
  | done (result : α) : Runs (.done result) [] result
  | ask (effect : Effect) (next : Reply effect → Program Effect Reply α) (reply : Reply effect)
      (history : List (Exchange Reply)) (result : α) (rest : Runs (next reply) history result) :
      Runs (.ask effect next) (⟨effect, reply⟩ :: history) result

theorem runs_done {result other : α} {history : List (Exchange Reply)} :
    Runs (.done result) history other ↔ history = [] ∧ other = result := by
  constructor
  · intro runs; cases runs; exact ⟨rfl, rfl⟩
  · rintro ⟨rfl, rfl⟩; exact .done _

theorem runs_ask {effect : Effect} {next : Reply effect → Program Effect Reply α}
    {history : List (Exchange Reply)} {result : α} :
    Runs (.ask effect next) history result
      ↔ ∃ reply rest, history = ⟨effect, reply⟩ :: rest ∧ Runs (next reply) rest result := by
  constructor
  · intro runs; cases runs with
    | ask _ _ reply rest _ after => exact ⟨reply, rest, rfl, after⟩
  · rintro ⟨reply, rest, rfl, after⟩; exact .ask _ _ reply rest result after

theorem runs_bind {program : Program Effect Reply α} {f : α → Program Effect Reply β}
    {history : List (Exchange Reply)} {result : β} :
    Runs (bind program f) history result
      ↔ ∃ first middle second,
          history = first ++ second ∧ Runs program first middle ∧ Runs (f middle) second result := by
  induction program generalizing history with
  | done value =>
    simp only [bind]
    constructor
    · intro runs; exact ⟨[], value, history, rfl, .done value, runs⟩
    · rintro ⟨first, middle, second, rfl, before, after⟩
      obtain ⟨rfl, rfl⟩ := runs_done.1 before
      exact after
  | ask effect next ih =>
    simp only [bind, runs_ask, ih]
    constructor
    · rintro ⟨reply, rest, rfl, first, middle, second, rfl, before, after⟩
      exact ⟨⟨effect, reply⟩ :: first, middle, second, rfl, ⟨reply, first, rfl, before⟩, after⟩
    · rintro ⟨first, middle, second, rfl, ⟨reply, rest, rfl, before⟩, after⟩
      exact ⟨reply, rest ++ second, rfl, rest, middle, second, rfl, before, after⟩

end Program

end OidcLogin
