import Mathlib.Logic.Function.Basic
import OidcLogin.Proofs.Program.Asks

namespace OidcLogin

-- A question about the shared state, or one to the program's own surroundings.
inductive SharedEffect (σ Effect : Type)
  | read
  | write (new : σ)
  | own (effect : Effect)

@[reducible]
def SharedEffect.Reply {σ Effect : Type} (Reply : Effect → Type) : SharedEffect σ Effect → Type
  | .read => σ
  | .write _ => Unit
  | .own effect => Reply effect

def SharedEffect.Leaves {σ Effect : Type} : SharedEffect σ Effect → Prop
  | .write _ => False
  | _ => True

abbrev SharedProgram (σ Effect : Type) (Reply : Effect → Type) (α : Type) :=
  Program (SharedEffect σ Effect) (SharedEffect.Reply Reply) α

-- What the surroundings answer, by what was asked and answered before.
abbrev Answers {Effect : Type} (Reply : Effect → Type) :=
  List (Program.Exchange Reply) → (effect : Effect) → Reply effect

variable {σ Effect : Type} {Reply : Effect → Type} {α : Type}

namespace Program

-- All that the program asks and is answered after some exchanges, these included, and its result.
def alone (answers : Answers Reply) : Program Effect Reply α → List (Exchange Reply) → List (Exchange Reply) × α
  | .done result, before => (before, result)
  | .ask effect next, before =>
    alone answers (next (answers before effect)) (before ++ [⟨effect, answers before effect⟩])

theorem runs_alone (answers : Answers Reply) (program : Program Effect Reply α) (before : List (Exchange Reply)) :
    ∃ history, (alone answers program before).1 = before ++ history
      ∧ Runs program history (alone answers program before).2 := by
  induction program generalizing before with
  | done result => exact ⟨[], by simp [alone], .done result⟩
  | ask effect next ih =>
    obtain ⟨history, same, runs⟩ := ih (answers before effect) (before ++ [⟨effect, answers before effect⟩])
    refine ⟨⟨effect, answers before effect⟩ :: history, ?_, .ask _ _ _ _ _ runs⟩
    simpa [alone] using same

end Program

namespace SharedProgram

open Program

-- The program that finds the shared state to be this one, whatever is written.
def settled (state : σ) (program : SharedProgram σ Effect Reply α) : Program Effect Reply α :=
  program.interpret fun effect =>
    match effect with
    | .read => .done state
    | .write _ => .done ()
    | .own effect => .ask effect .done

theorem settled_own (state : σ) (effect : Effect) (next : Reply effect → SharedProgram σ Effect Reply α) :
    settled state (.ask (.own effect) next) = .ask effect fun reply => settled state (next reply) := rfl

abbrev OnlyReads (program : SharedProgram σ Effect Reply α) : Prop := Asks SharedEffect.Leaves program

def Waits (awaited : Effect → Bool) : SharedProgram σ Effect Reply α → Prop
  | .ask (.own effect) _ => awaited effect = true
  | _ => False

def Finished (program : SharedProgram σ Effect Reply α) : Prop := ∃ result, program = .done result

-- What comes of a program's turn: the shared state, what it asked with the answers, and what is left of it.
structure Segment (σ Effect : Type) (Reply : Effect → Type) (α : Type) where
  state : σ
  said : List (Exchange Reply)
  rest : SharedProgram σ Effect Reply α

def goOn (awaited : Effect → Bool) (answers : Answers Reply) :
    SharedProgram σ Effect Reply α → σ → List (Exchange Reply) → Segment σ Effect Reply α
  | .done result, state, _ => ⟨state, [], .done result⟩
  | .ask .read next, state, before => goOn awaited answers (next state) state before
  | .ask (.write new) next, _, before => goOn awaited answers (next ()) new before
  | .ask (.own effect) next, state, before =>
    if awaited effect then ⟨state, [], .ask (.own effect) next⟩
    else
      let reply := answers before effect
      let later := goOn awaited answers (next reply) state (before ++ [⟨effect, reply⟩])
      { later with said := ⟨effect, reply⟩ :: later.said }

-- A turn begins with the answer that the program waits for.
def turn (awaited : Effect → Bool) (answers : Answers Reply) (program : SharedProgram σ Effect Reply α)
    (state : σ) (before : List (Exchange Reply)) : Segment σ Effect Reply α :=
  match program with
  | .ask (.own effect) next =>
    let reply := answers before effect
    let later := goOn awaited answers (next reply) state (before ++ [⟨effect, reply⟩])
    { later with said := ⟨effect, reply⟩ :: later.said }
  | program => goOn awaited answers program state before

def waits (awaited : Effect → Bool) (history : List (Exchange Reply)) : Nat :=
  history.countP fun exchange => awaited exchange.1

variable {awaited : Effect → Bool} {answers : Answers Reply} {program : SharedProgram σ Effect Reply α}
  {state : σ} {before : List (Exchange Reply)}

-- What holds of a turn of a program that only reads: nothing changes for the others, and running on alone
-- leads to what it would have led to before.
structure Segment.Continues (segment : Segment σ Effect Reply α) (awaited : Effect → Bool)
    (answers : Answers Reply) (program : SharedProgram σ Effect Reply α) (state : σ)
    (before : List (Exchange Reply)) : Prop where
  unchanged : segment.state = state
  reads : OnlyReads segment.rest
  alone : alone answers (settled state segment.rest) (before ++ segment.said)
    = alone answers (settled state program) before
  pauses : Finished segment.rest ∨ Waits awaited segment.rest

theorem goOn_continues (awaited : Effect → Bool) (answers : Answers Reply) (state : σ)
    (reads : OnlyReads program) (before : List (Exchange Reply)) :
    (goOn awaited answers program state before).Continues awaited answers program state before := by
  induction reads generalizing state before with
  | done _ =>
    constructor
    · rfl
    · apply Asks.done
    · simp [goOn]
    · exact .inl ⟨_, rfl⟩
  | @ask effect next asked later ih =>
    cases effect with
    | read =>
      have rest := ih state state before
      exact ⟨rest.unchanged, rest.reads, rest.alone, rest.pauses⟩
    | write new => exact asked.elim
    | own effect =>
      by_cases waiting : awaited effect = true
      · simp only [goOn, waiting, if_true]
        constructor
        · rfl
        · exact .ask asked later
        · simp
        · exact .inr waiting
      · simp only [goOn, waiting, Bool.false_eq_true, if_false]
        have rest := ih (answers before effect) state (before ++ [⟨effect, answers before effect⟩])
        constructor
        · exact rest.unchanged
        · exact rest.reads
        · simpa [settled_own, Program.alone] using rest.alone
        · exact rest.pauses

theorem turn_continues (awaited : Effect → Bool) (answers : Answers Reply) (state : σ)
    (reads : OnlyReads program) (before : List (Exchange Reply)) :
    (turn awaited answers program state before).Continues awaited answers program state before := by
  cases reads with
  | done _ => exact goOn_continues awaited answers state (Asks.done _) before
  | @ask effect next asked later =>
    cases effect with
    | read => exact goOn_continues awaited answers state (.ask asked later) before
    | write new => exact asked.elim
    | own effect =>
      have rest := goOn_continues awaited answers state (later (answers before effect))
        (before ++ [⟨effect, answers before effect⟩])
      constructor
      · exact rest.unchanged
      · exact rest.reads
      · simpa [turn, settled_own, Program.alone] using rest.alone
      · exact rest.pauses

theorem waits_goOn (state : σ) (before : List (Exchange Reply)) :
    waits awaited (goOn awaited answers program state before).said = 0 := by
  induction program generalizing state before with
  | done _ => rfl
  | ask effect next ih =>
    cases effect with
    | read => exact ih state state before
    | write new => exact ih () new before
    | own effect =>
      by_cases waiting : awaited effect = true
      · simp [goOn, waiting, waits]
      · have none := ih (answers before effect) state (before ++ [⟨effect, answers before effect⟩])
        simpa [goOn, waiting, waits] using none

theorem waits_turn (answers : Answers Reply) (state : σ) (waiting : Waits awaited program)
    (before : List (Exchange Reply)) :
    waits awaited (turn awaited answers program state before).said = 1 := by
  cases program with
  | done _ => exact waiting.elim
  | ask effect next =>
    cases effect with
    | read | write _ => exact waiting.elim
    | own effect =>
      have later : waits awaited (goOn awaited answers (next (answers before effect)) state
          (before ++ [⟨effect, answers before effect⟩])).said = 0 := waits_goOn state _
      simp only [waits] at later
      have here : awaited effect = true := waiting
      simp [turn, waits, here, later]

theorem waits_lt_alone (answers : Answers Reply) (state : σ) (waiting : Waits awaited program)
    (before : List (Exchange Reply)) :
    waits awaited before < waits awaited (alone answers (settled state program) before).1 := by
  cases program with
  | done _ => exact waiting.elim
  | ask effect next =>
    cases effect with
    | read | write _ => exact waiting.elim
    | own effect =>
      have here : awaited effect = true := waiting
      obtain ⟨history, same, _⟩ := runs_alone answers (settled state (next (answers before effect)))
        (before ++ [⟨effect, answers before effect⟩])
      rw [settled_own, Program.alone, same]
      simp only [waits, List.countP_append, List.countP_singleton, here, if_true]
      omega

end SharedProgram

-- Programs under way, with the state that they share and the record of all that they asked.
structure Pool (σ : Type) {Effect : Type} (Reply : Effect → Type) (α : Type) (n : Nat) where
  state : σ
  rest : Fin n → SharedProgram σ Effect Reply α
  record : List (Fin n × Program.Exchange Reply)

namespace Pool

open Program SharedProgram

variable {n : Nat}

def history (pool : Pool σ Reply α n) (i : Fin n) : List (Exchange Reply) :=
  pool.record.filterMap fun (j, exchange) => if j = i then some exchange else none

def start (state : σ) (programs : Fin n → SharedProgram σ Effect Reply α) : Pool σ Reply α n :=
  ⟨state, programs, []⟩

def turn (awaited : Effect → Bool) (answers : Fin n → Answers Reply) (pool : Pool σ Reply α n) (i : Fin n) :
    Pool σ Reply α n :=
  let segment := SharedProgram.turn awaited (answers i) (pool.rest i) pool.state (pool.history i)
  ⟨segment.state, Function.update pool.rest i segment.rest, pool.record ++ segment.said.map (i, ·)⟩

def after (awaited : Effect → Bool) (answers : Fin n → Answers Reply) (schedule : List (Fin n))
    (pool : Pool σ Reply α n) : Pool σ Reply α n :=
  schedule.foldl (turn awaited answers) pool

variable {awaited : Effect → Bool} {answers : Fin n → Answers Reply} {pool : Pool σ Reply α n}

theorem filterMap_taken (i j : Fin n) (said : List (Exchange Reply)) :
    (said.map (i, ·)).filterMap (fun (k, exchange) => if k = j then some exchange else none)
      = if i = j then said else [] := by
  induction said with
  | nil => simp
  | cons first rest ih =>
    rw [List.map_cons, List.filterMap_cons, ih]
    by_cases same : i = j
    · simp [same]
    · simp [same]

theorem history_turn_self (i : Fin n) :
    (pool.turn awaited answers i).history i = pool.history i
      ++ (SharedProgram.turn awaited (answers i) (pool.rest i) pool.state (pool.history i)).said := by
  unfold history turn
  rw [List.filterMap_append, filterMap_taken, if_pos rfl]
  rfl

theorem history_turn_other {i j : Fin n} (other : j ≠ i) :
    (pool.turn awaited answers i).history j = pool.history j := by
  unfold history turn
  rw [List.filterMap_append, filterMap_taken, if_neg other.symm, List.append_nil]

theorem rest_turn_self (i : Fin n) :
    (pool.turn awaited answers i).rest i
      = (SharedProgram.turn awaited (answers i) (pool.rest i) pool.state (pool.history i)).rest := by
  simp [turn]

theorem rest_turn_other {i j : Fin n} (other : j ≠ i) :
    (pool.turn awaited answers i).rest j = pool.rest j := by
  simp [turn, other]

-- Each of them is on its way to what it does alone, and has waited about as often as it has taken turns.
structure Keeps (pool : Pool σ Reply α n) (awaited : Effect → Bool) (answers : Fin n → Answers Reply)
    (state : σ) (alone : Fin n → List (Exchange Reply) × α) (turns : Fin n → Nat) : Prop where
  unchanged : pool.state = state
  reads : ∀ i, OnlyReads (pool.rest i)
  leads : ∀ i, Program.alone (answers i) (settled state (pool.rest i)) (pool.history i) = alone i
  pauses : ∀ i, Finished (pool.rest i) ∨ turns i = 0
    ∨ Waits awaited (pool.rest i) ∧ turns i ≤ waits awaited (pool.history i) + 1

variable {state : σ} {alone : Fin n → List (Exchange Reply) × α} {turns : Fin n → Nat}

theorem Keeps.turn (keeps : pool.Keeps awaited answers state alone turns) (i : Fin n) :
    (pool.turn awaited answers i).Keeps awaited answers state alone
      (fun j => turns j + if i = j then 1 else 0) := by
  have continues := turn_continues awaited (answers i) pool.state (keeps.reads i) (pool.history i)
  constructor
  case unchanged => exact continues.unchanged.trans keeps.unchanged
  case reads =>
    intro j
    by_cases same : j = i
    · subst same
      rw [rest_turn_self]
      exact continues.reads
    · rw [rest_turn_other same]
      exact keeps.reads j
  case leads =>
    intro j
    by_cases same : j = i
    · subst same
      rw [rest_turn_self, history_turn_self, ← keeps.unchanged, continues.alone, keeps.unchanged]
      exact keeps.leads j
    · rw [rest_turn_other same, history_turn_other same]
      exact keeps.leads j
  case pauses =>
    intro j
    by_cases same : j = i
    · subst same
      rw [rest_turn_self, history_turn_self]
      rcases keeps.pauses j with ⟨result, ended⟩ | none | ⟨waiting, often⟩
      · left
        rw [ended]
        exact ⟨result, rfl⟩
      · rcases continues.pauses with ended | waiting
        · exact .inl ended
        · refine .inr (.inr ⟨waiting, ?_⟩)
          simp [none]
      · rcases continues.pauses with ended | still
        · exact .inl ended
        · refine .inr (.inr ⟨still, ?_⟩)
          have once := waits_turn (answers j) pool.state waiting (pool.history j)
          unfold waits at once often ⊢
          rw [List.countP_append, once, if_pos rfl]
          omega
    · rw [rest_turn_other same, history_turn_other same, if_neg (Ne.symm same)]
      exact keeps.pauses j

theorem Keeps.after (keeps : pool.Keeps awaited answers state alone turns) (schedule : List (Fin n)) :
    (pool.after awaited answers schedule).Keeps awaited answers state alone
      (fun i => turns i + schedule.count i) := by
  induction schedule generalizing pool turns with
  | nil => simpa [Pool.after] using keeps
  | cons i rest ih =>
    have later := ih (keeps.turn i)
    simp only [Nat.add_assoc] at later
    simpa [Pool.after, List.count_cons, Nat.add_comm, beq_iff_eq] using later

theorem keeps_start (awaited : Effect → Bool) (answers : Fin n → Answers Reply) (state : σ)
    {programs : Fin n → SharedProgram σ Effect Reply α} (reads : ∀ i, OnlyReads (programs i)) :
    (start state programs).Keeps awaited answers state
      (fun i => Program.alone (answers i) (settled state (programs i)) []) (fun _ => 0) := by
  constructor
  · rfl
  · exact reads
  · intro i
    rfl
  · intro i
    exact .inr (.inl rfl)

-- What is known of one of the programs after some turns.
structure RunsAsAlone (pool : Pool σ Reply α n) (i : Fin n) (alone : List (Exchange Reply) × α)
    (awaited : Effect → Bool) (turns : Nat) : Prop where
  soFar : pool.history i <+: alone.1
  ended : ∀ result, pool.rest i = .done result → pool.history i = alone.1 ∧ result = alone.2
  ends : waits awaited alone.1 < turns → Finished (pool.rest i)

theorem Keeps.runsAsAlone (keeps : pool.Keeps awaited answers state alone turns) (i : Fin n) :
    pool.RunsAsAlone i (alone i) awaited (turns i) := by
  have leads := keeps.leads i
  obtain ⟨history, same, _⟩ := runs_alone (answers i) (settled state (pool.rest i)) (pool.history i)
  rw [leads] at same
  constructor
  case soFar => exact ⟨history, same.symm⟩
  case ended =>
    intro result done
    rw [done] at leads
    have reached : (pool.history i, result) = alone i := leads
    rw [← reached]
    exact ⟨rfl, rfl⟩
  case ends =>
    intro many
    rcases keeps.pauses i with ended | none | ⟨waiting, often⟩
    · exact ended
    · omega
    · have further := waits_lt_alone (answers i) state waiting (pool.history i)
      rw [leads] at further
      omega

end Pool

end OidcLogin
