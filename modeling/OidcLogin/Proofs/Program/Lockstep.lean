import Mathlib.Data.List.Forall2
import OidcLogin.Program.Basic

namespace OidcLogin.Program

variable {Effect Other : Type} {Reply : Effect → Type} {OtherReply : Other → Type} {α β γ δ : Type}

inductive Lockstep (Like : Effect → Effect → Prop) (Answered : Exchange Reply → Exchange Reply → Prop)
    (Ends : α → β → Prop) : Program Effect Reply α → Program Effect Reply β → Prop
  | done {a : α} {b : β} (ends : Ends a b) : Lockstep Like Answered Ends (.done a) (.done b)
  | ask {first second : Effect} {next : Reply first → Program Effect Reply α}
      {after : Reply second → Program Effect Reply β} (like : Like first second)
      (later : ∀ reply answer, Answered ⟨first, reply⟩ ⟨second, answer⟩ →
        Lockstep Like Answered Ends (next reply) (after answer)) :
      Lockstep Like Answered Ends (.ask first next) (.ask second after)

variable {Like : Effect → Effect → Prop} {Answered : Exchange Reply → Exchange Reply → Prop} {Ends : α → β → Prop}
  {first : Program Effect Reply α} {second : Program Effect Reply β}

theorem lockstep_bind {Later : γ → δ → Prop} {f : α → Program Effect Reply γ} {g : β → Program Effect Reply δ}
    (both : Lockstep Like Answered Ends first second)
    (after : ∀ a b, Ends a b → Lockstep Like Answered Later (f a) (g b)) :
    Lockstep Like Answered Later (first >>= f) (second >>= g) := by
  induction both with
  | done ends => exact after _ _ ends
  | ask like later ih => exact .ask like ih

-- Where like questions mean programs in lockstep, whose ends are like answers, so do programs that ask them.
theorem lockstep_interpret {LikeOther : Other → Other → Prop}
    {AnsweredOther : Exchange OtherReply → Exchange OtherReply → Prop}
    {meaning sense : (effect : Effect) → Program Other OtherReply (Reply effect)}
    (both : Lockstep Like Answered Ends first second)
    (means : ∀ effect other, Like effect other →
      Lockstep LikeOther AnsweredOther (fun reply answer => Answered ⟨effect, reply⟩ ⟨other, answer⟩)
        (meaning effect) (sense other)) :
    Lockstep LikeOther AnsweredOther Ends (interpret meaning first) (interpret sense second) := by
  induction both with
  | done ends => exact .done ends
  | ask like later ih => exact lockstep_bind (means _ _ like) ih

-- Runs that are answered alike, one question after the other, ask alike and end alike.
theorem Lockstep.of_runs {history other : List (Exchange Reply)} {a : α} {b : β}
    (both : Lockstep Like Answered Ends first second) (runs : Runs first history a) (others : Runs second other b)
    (answered : ∀ pair ∈ history.zip other, Answered pair.1 pair.2) :
    List.Forall₂ (fun exchange another => Like exchange.1 another.1) history other ∧ Ends a b := by
  induction both generalizing history other with
  | done ends =>
    obtain ⟨rfl, rfl⟩ := runs_done.1 runs
    obtain ⟨rfl, rfl⟩ := runs_done.1 others
    exact ⟨.nil, ends⟩
  | ask like later ih =>
    obtain ⟨reply, rest, rfl, after⟩ := runs_ask.1 runs
    obtain ⟨answer, remainder, rfl, afterwards⟩ := runs_ask.1 others
    rw [List.zip_cons_cons] at answered
    obtain ⟨here, further⟩ := List.forall_mem_cons.1 answered
    obtain ⟨alike, ends⟩ := ih reply answer here after afterwards further
    exact ⟨.cons like alike, ends⟩

-- Surroundings that answer each question in one way bring every program to its result.
theorem exists_runs (answer : (effect : Effect) → Reply effect) (program : Program Effect Reply α) :
    ∃ history, Runs program history (run (fun effect (_ : Unit) => (answer effect, ())) program ()).1
      ∧ ∀ exchange ∈ history, exchange.2 = answer exchange.1 := by
  induction program with
  | done result => exact ⟨[], .done result, List.forall_mem_nil _⟩
  | ask effect next ih =>
    obtain ⟨history, runs, answered⟩ := ih (answer effect)
    exact ⟨_, .ask effect next _ history _ runs, List.forall_mem_cons.2 ⟨rfl, answered⟩⟩

theorem answered_of_surroundings {answer other : (effect : Effect) → Reply effect}
    {history others : List (Exchange Reply)}
    (alike : ∀ effect another, Answered ⟨effect, answer effect⟩ ⟨another, other another⟩)
    (here : ∀ exchange ∈ history, exchange.2 = answer exchange.1)
    (there : ∀ exchange ∈ others, exchange.2 = other exchange.1) :
    ∀ pair ∈ history.zip others, Answered pair.1 pair.2 := by
  intro pair member
  obtain ⟨⟨effect, reply⟩, another, answer'⟩ := pair
  obtain ⟨first, second⟩ := List.of_mem_zip member
  obtain rfl : reply = answer effect := here _ first
  obtain rfl : answer' = other another := there _ second
  exact alike effect another

end OidcLogin.Program
