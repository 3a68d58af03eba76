import OidcLogin.Program.Basic

namespace OidcLogin.Program

variable {Effect Other : Type} {Reply : Effect → Type} {OtherReply : Other → Type} {α β : Type}

-- Whatever is answered, every question of the program is one of `P`, and its result one of `Q`.
inductive Meets (P : Effect → Prop) (Q : α → Prop) : Program Effect Reply α → Prop
  | done {result : α} (holds : Q result) : Meets P Q (.done result)
  | ask {effect : Effect} {next : Reply effect → Program Effect Reply α} (asked : P effect)
      (later : ∀ reply, Meets P Q (next reply)) : Meets P Q (.ask effect next)

abbrev Asks (P : Effect → Prop) : Program Effect Reply α → Prop := Meets P fun _ => True

variable {P : Effect → Prop} {Q : α → Prop} {R : β → Prop}

theorem Asks.done (result : α) : Asks P (.done result : Program Effect Reply α) := Meets.done trivial

theorem Meets.of_runs {program : Program Effect Reply α} {history : List (Exchange Reply)} {result : α}
    (meets : Meets P Q program) (runs : Runs program history result) :
    (∀ exchange ∈ history, P exchange.1) ∧ Q result := by
  induction runs with
  | done value =>
    cases meets with
    | done holds => exact ⟨fun exchange member => absurd member List.not_mem_nil, holds⟩
  | ask effect next reply history value rest ih =>
    cases meets with
    | ask asked later =>
      obtain ⟨others, holds⟩ := ih (later reply)
      refine ⟨fun exchange member => ?_, holds⟩
      rcases List.mem_cons.1 member with same | member
      · exact same ▸ asked
      · exact others exchange member

theorem meets_bind {program : Program Effect Reply α} {f : α → Program Effect Reply β}
    (first : Meets P Q program) (second : ∀ value, Q value → Meets P R (f value)) :
    Meets P R (program >>= f) := by
  induction first with
  | done holds => exact second _ holds
  | ask asked later ih => exact .ask asked ih

theorem asks_bind {program : Program Effect Reply α} {f : α → Program Effect Reply β}
    (first : Asks P program) (second : ∀ value, Meets P R (f value)) : Meets P R (program >>= f) :=
  meets_bind first fun value _ => second value

theorem Meets.mono {P' : Effect → Prop} {program : Program Effect Reply α} (meets : Meets P Q program)
    (weaker : ∀ effect, P effect → P' effect) : Meets P' Q program := by
  induction meets with
  | done holds => exact .done holds
  | ask asked later ih => exact .ask (weaker _ asked) ih

-- What an interpreted program asks is what the meanings of its questions ask.
theorem asks_interpret {other : Other → Prop} {program : Program Effect Reply α}
    {meaning : (effect : Effect) → Program Other OtherReply (Reply effect)} (asks : Asks P program)
    (means : ∀ effect, P effect → Asks other (meaning effect)) :
    Asks other (interpret meaning program) := by
  induction asks with
  | done _ => exact .done _
  | ask asked later ih => exact asks_bind (means _ asked) ih

-- Under some answers the program comes to this question.
inductive CanAsk : Program Effect Reply α → Effect → Prop
  | now {effect : Effect} {next : Reply effect → Program Effect Reply α} : CanAsk (.ask effect next) effect
  | later {effect asked : Effect} {next : Reply effect → Program Effect Reply α} {reply : Reply effect}
      (after : CanAsk (next reply) asked) : CanAsk (.ask effect next) asked

theorem asks_canAsk (program : Program Effect Reply α) : Asks (CanAsk program) program := by
  induction program with
  | done value => exact .done value
  | ask effect next ih => exact .ask .now fun reply => (ih reply).mono fun _ => .later

theorem asks_anything (program : Program Effect Reply α) : Asks (fun _ => True) program := by
  induction program with
  | done value => exact .done value
  | ask effect next ih => exact .ask trivial ih

end OidcLogin.Program
