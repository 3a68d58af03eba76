import Mathlib.Data.List.Forall2
import OidcLogin.Program.Basic

namespace OidcLogin.Program

variable {Effect Other : Type} {Reply : Effect → Type} {OtherReply : Other → Type} {α β γ σ : Type}

theorem bind_assoc (program : Program Effect Reply α) (f : α → Program Effect Reply β)
    (g : β → Program Effect Reply γ) : (program >>= f) >>= g = program >>= fun value => f value >>= g := by
  induction program with
  | done value => rfl
  | ask effect next ih =>
    change ask effect (fun reply => (next reply >>= f) >>= g)
      = ask effect fun reply => next reply >>= fun value => f value >>= g
    simp only [ih]

variable {meaning sense : (effect : Effect) → Program Other OtherReply (Reply effect)}

theorem interpret_bind (meaning : (effect : Effect) → Program Other OtherReply (Reply effect))
    (program : Program Effect Reply α) (f : α → Program Effect Reply β) :
    interpret meaning (program >>= f) = interpret meaning program >>= fun value => interpret meaning (f value) := by
  induction program with
  | done value => rfl
  | ask effect next ih =>
    change (meaning effect >>= fun reply => interpret meaning (next reply >>= f))
      = (meaning effect >>= fun reply => interpret meaning (next reply)) >>= _
    simp only [ih, bind_assoc]

theorem run_bind (answer : (effect : Effect) → σ → Reply effect × σ) (program : Program Effect Reply α)
    (f : α → Program Effect Reply β) (state : σ) :
    run answer (program >>= f) state
      = run answer (f (run answer program state).1) (run answer program state).2 := by
  induction program generalizing state with
  | done value => rfl
  | ask effect next ih => exact ih _ _

theorem run_interpret_eq {answer : (effect : Other) → σ → OtherReply effect × σ}
    (same : ∀ effect state, run answer (meaning effect) state = run answer (sense effect) state)
    (program : Program Effect Reply α) (state : σ) :
    run answer (interpret meaning program) state = run answer (interpret sense program) state := by
  induction program generalizing state with
  | done value => rfl
  | ask effect next ih =>
    change run answer (meaning effect >>= fun reply => interpret meaning (next reply)) state
      = run answer (sense effect >>= fun reply => interpret sense (next reply)) state
    rw [run_bind, run_bind, same effect state]
    exact ih _ _

-- A run of an interpreted program is cut into one run for each question.
theorem runs_interpret {program : Program Effect Reply α} {history : List (Exchange OtherReply)} {result : α}
    (runs : Runs (interpret meaning program) history result) :
    ∃ calls segments, Runs program calls result ∧ history = segments.flatten
      ∧ List.Forall₂ (fun call segment => Runs (meaning call.1) segment call.2) calls segments := by
  induction program generalizing history with
  | done value =>
    obtain ⟨rfl, rfl⟩ := runs_done.1 runs
    exact ⟨[], [], .done result, rfl, .nil⟩
  | ask effect next ih =>
    obtain ⟨first, reply, second, rfl, asked, after⟩ := runs_bind.1 runs
    obtain ⟨calls, segments, later, rfl, each⟩ := ih reply after
    exact ⟨⟨effect, reply⟩ :: calls, first :: segments, .ask effect next reply calls result later, rfl,
      .cons asked each⟩

end OidcLogin.Program
