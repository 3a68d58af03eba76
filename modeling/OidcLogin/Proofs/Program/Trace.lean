import OidcLogin.Program.Basic

namespace OidcLogin.Program

variable {Effect Other : Type} {Reply : Effect → Type} {OtherReply : Other → Type} {α β : Type}

-- The exchanges of a history whose questions are kept, in their order.
def traceOf (keep : Effect → Bool) (history : List (Exchange Reply)) : List (Exchange Reply) :=
  history.filter fun exchange => keep exchange.1

theorem mem_traceOf {keep : Effect → Bool} {history : List (Exchange Reply)} {exchange : Exchange Reply} :
    exchange ∈ traceOf keep history ↔ exchange ∈ history ∧ keep exchange.1 = true :=
  List.mem_filter

theorem traceOf_append (keep : Effect → Bool) (first rest : List (Exchange Reply)) :
    traceOf keep (first ++ rest) = traceOf keep first ++ traceOf keep rest := List.filter_append first rest

theorem traceOf_ne_nil {keep : Effect → Bool} {history : List (Exchange Reply)} :
    traceOf keep history ≠ [] ↔ ∃ exchange ∈ history, keep exchange.1 = true := by
  simp [traceOf]

-- Some run of the program has this result and this trace.
def Leaves (keep : Effect → Bool) (program : Program Effect Reply α) (trace : List (Exchange Reply))
    (result : α) : Prop :=
  ∃ history, Runs program history result ∧ traceOf keep history = trace

variable {keep : Effect → Bool} {trace : List (Exchange Reply)}

theorem Runs.leaves {program : Program Effect Reply α} {history : List (Exchange Reply)} {result : α}
    (runs : Runs program history result) : Leaves keep program (traceOf keep history) result :=
  ⟨history, runs, rfl⟩

theorem leaves_done {value result : α} :
    Leaves keep (.done value : Program Effect Reply α) trace result ↔ trace = [] ∧ result = value := by
  constructor
  · intro given
    obtain ⟨history, runs, rfl⟩ := given
    obtain ⟨rfl, rfl⟩ := runs_done.1 runs
    exact ⟨rfl, rfl⟩
  · intro given
    obtain ⟨rfl, rfl⟩ := given
    exact ⟨[], .done result, rfl⟩

theorem leaves_pure {value result : α} :
    Leaves keep (pure value : Program Effect Reply α) trace result ↔ trace = [] ∧ result = value :=
  leaves_done

theorem leaves_done_bind {value : β} {f : β → Program Effect Reply α} {result : α} :
    Leaves keep ((.done value : Program Effect Reply β) >>= f) trace result ↔ Leaves keep (f value) trace result :=
  Iff.rfl

theorem leaves_kept {effect : Effect} {next : Reply effect → Program Effect Reply α} {result : α}
    (kept : keep effect = true) :
    Leaves keep (.ask effect next) trace result
      ↔ ∃ reply rest, trace = ⟨effect, reply⟩ :: rest ∧ Leaves keep (next reply) rest result := by
  constructor
  · intro given
    obtain ⟨history, runs, rfl⟩ := given
    obtain ⟨reply, rest, rfl, after⟩ := runs_ask.1 runs
    exact ⟨reply, traceOf keep rest, by simp [traceOf, kept], after.leaves⟩
  · intro given
    obtain ⟨reply, rest, rfl, history, runs, rfl⟩ := given
    exact ⟨⟨effect, reply⟩ :: history, .ask effect next reply history result runs,
      by simp [traceOf, kept]⟩

theorem Leaves.finished (result : α) : Leaves keep (.done result : Program Effect Reply α) [] result :=
  leaves_done.2 ⟨rfl, rfl⟩

theorem Leaves.asked {effect : Effect} {next : Reply effect → Program Effect Reply α}
    {reply : Reply effect} {result : α} (kept : keep effect = true)
    (after : Leaves keep (next reply) trace result) :
    Leaves keep (.ask effect next) (⟨effect, reply⟩ :: trace) result :=
  (leaves_kept kept).2 ⟨reply, trace, rfl, after⟩

theorem leaves_asked {effect : Effect} {reply : Reply effect} (kept : keep effect = true) :
    Leaves keep (.ask effect .done) trace reply ↔ trace = [⟨effect, reply⟩] := by
  rw [leaves_kept kept]
  constructor
  · intro given
    obtain ⟨_, _, rfl, after⟩ := given
    obtain ⟨rfl, rfl⟩ := leaves_done.1 after
    rfl
  · intro same
    exact ⟨reply, [], same, .finished reply⟩

theorem leaves_dropped {effect : Effect} {next : Reply effect → Program Effect Reply α} {result : α}
    (dropped : keep effect = false) :
    Leaves keep (.ask effect next) trace result ↔ ∃ reply, Leaves keep (next reply) trace result := by
  constructor
  · intro given
    obtain ⟨history, runs, rfl⟩ := given
    obtain ⟨reply, rest, rfl, after⟩ := runs_ask.1 runs
    exact ⟨reply, rest, after, by simp [traceOf, dropped]⟩
  · intro given
    obtain ⟨reply, history, runs, rfl⟩ := given
    exact ⟨⟨effect, reply⟩ :: history, .ask effect next reply history result runs,
      by simp [traceOf, dropped]⟩

theorem leaves_ignored {effect : Effect} [Nonempty (Reply effect)] {next : Program Effect Reply α} {result : α}
    (dropped : keep effect = false) :
    Leaves keep (.ask effect fun _ => next) trace result ↔ Leaves keep next trace result :=
  (leaves_dropped dropped).trans (exists_const _)

-- Where only questions with a single answer are dropped, a trace tells the result.
theorem Leaves.unique {program : Program Effect Reply α}
    (single : ∀ effect, keep effect = false → Subsingleton (Reply effect)) {result other : α}
    (left : Leaves keep program trace result) (again : Leaves keep program trace other) : result = other := by
  induction program generalizing trace with
  | done value =>
    obtain ⟨_, rfl⟩ := leaves_done.1 left
    obtain ⟨_, rfl⟩ := leaves_done.1 again
    rfl
  | ask effect next ih =>
    cases looked : keep effect with
    | true =>
      obtain ⟨reply, rest, rfl, after⟩ := (leaves_kept looked).1 left
      obtain ⟨_, _, same, afterwards⟩ := (leaves_kept looked).1 again
      cases same
      exact ih reply after afterwards
    | false =>
      obtain ⟨reply, after⟩ := (leaves_dropped looked).1 left
      obtain ⟨answer, afterwards⟩ := (leaves_dropped looked).1 again
      obtain rfl := (single effect looked).elim reply answer
      exact ih reply after afterwards

theorem leaves_bind {program : Program Effect Reply α} {f : α → Program Effect Reply β} {result : β} :
    Leaves keep (program >>= f) trace result
      ↔ ∃ first middle second,
          trace = first ++ second ∧ Leaves keep program first middle
            ∧ Leaves keep (f middle) second result := by
  constructor
  · intro given
    obtain ⟨history, runs, rfl⟩ := given
    obtain ⟨first, middle, second, rfl, before, after⟩ := runs_bind.1 runs
    exact ⟨traceOf keep first, middle, traceOf keep second, List.filter_append .., before.leaves,
      after.leaves⟩
  · intro given
    obtain ⟨_, middle, _, rfl, ⟨first, before, rfl⟩, second, after, rfl⟩ := given
    exact ⟨first ++ second, runs_bind.2 ⟨first, middle, second, rfl, before, after⟩,
      List.filter_append ..⟩

theorem leaves_silent_bind {silent : Program Effect Reply β} {next : Program Effect Reply α} {result : α}
    [Inhabited β] (nothing : ∀ trace value, Leaves keep silent trace value ↔ trace = []) :
    Leaves keep (silent >>= fun _ => next) trace result ↔ Leaves keep next trace result := by
  rw [leaves_bind]
  constructor
  · intro given
    obtain ⟨first, value, second, rfl, before, after⟩ := given
    obtain rfl := (nothing first value).1 before
    exact after
  · intro after
    exact ⟨[], default, trace, rfl, (nothing [] default).2 rfl, after⟩

theorem leaves_quiet_bind {program : Program Effect Reply β} {f : β → Program Effect Reply α} {g : β → α}
    {result : α}
    (quiet : ∀ value trace result, Leaves keep (f value) trace result ↔ trace = [] ∧ result = g value) :
    Leaves keep (program >>= f) trace result ↔ ∃ value, Leaves keep program trace value ∧ result = g value := by
  rw [leaves_bind]
  constructor
  · intro given
    obtain ⟨first, value, second, rfl, before, after⟩ := given
    obtain ⟨rfl, rfl⟩ := (quiet value second result).1 after
    exact ⟨value, by simpa using before, rfl⟩
  · intro given
    obtain ⟨value, before, same⟩ := given
    exact ⟨trace, value, [], by simp, before, (quiet value [] result).2 ⟨rfl, same⟩⟩

-- A trace in which each exchange is replaced by a trace of what its question means, with this reply.
inductive Expands (keep : Other → Bool)
    (meaning : (effect : Effect) → Program Other OtherReply (Reply effect)) :
    List (Exchange Reply) → List (Exchange OtherReply) → Prop
  | nil : Expands keep meaning [] []
  | cons {effect : Effect} {reply : Reply effect} {outer : List (Exchange Reply)}
      {first second : List (Exchange OtherReply)} (one : Leaves keep (meaning effect) first reply)
      (rest : Expands keep meaning outer second) :
      Expands keep meaning (⟨effect, reply⟩ :: outer) (first ++ second)

section Expands

variable {keep : Other → Bool} {meaning : (effect : Effect) → Program Other OtherReply (Reply effect)}
  {outer : List (Exchange Reply)} {inner : List (Exchange OtherReply)}

theorem expands_nil : Expands keep meaning [] inner ↔ inner = [] := by
  constructor
  · intro expanded; cases expanded; rfl
  · intro empty; subst empty; exact .nil

theorem expands_cons {effect : Effect} {reply : Reply effect} :
    Expands keep meaning (⟨effect, reply⟩ :: outer) inner
      ↔ ∃ first second,
          inner = first ++ second ∧ Leaves keep (meaning effect) first reply
            ∧ Expands keep meaning outer second := by
  constructor
  · intro expanded
    cases expanded with
    | cons one rest => exact ⟨_, _, rfl, one, rest⟩
  · intro given
    obtain ⟨first, second, rfl, one, rest⟩ := given
    exact .cons one rest

-- Where every question that is dropped outside means a program that leaves nothing, a trace of an
-- interpreted program expands a trace of the program itself.
theorem leaves_interpret {kept : Effect → Bool} {program : Program Effect Reply α} {result : α}
    (silent : ∀ effect, kept effect = false →
      ∀ trace reply, Leaves keep (meaning effect) trace reply ↔ trace = []) :
    Leaves keep (interpret meaning program) inner result
      ↔ ∃ outer, Leaves kept program outer result ∧ Expands keep meaning outer inner := by
  induction program generalizing inner with
  | done value =>
    simp only [interpret, leaves_done]
    constructor
    · intro given
      obtain ⟨rfl, rfl⟩ := given
      exact ⟨[], ⟨rfl, rfl⟩, .nil⟩
    · intro given
      obtain ⟨_, ⟨rfl, rfl⟩, expanded⟩ := given
      exact ⟨expands_nil.1 expanded, rfl⟩
  | ask effect next ih =>
    change Leaves keep (meaning effect >>= fun reply => interpret meaning (next reply)) inner result ↔ _
    rw [leaves_bind]
    simp only [ih]
    cases looked : kept effect with
    | true =>
      simp only [leaves_kept looked]
      constructor
      · intro given
        obtain ⟨first, reply, second, rfl, one, outer, after, rest⟩ := given
        exact ⟨_, ⟨reply, outer, rfl, after⟩, .cons one rest⟩
      · intro given
        obtain ⟨_, ⟨reply, outer, rfl, after⟩, expanded⟩ := given
        obtain ⟨first, second, rfl, one, rest⟩ := expands_cons.1 expanded
        exact ⟨first, reply, second, rfl, one, outer, after, rest⟩
    | false =>
      simp only [leaves_dropped looked]
      constructor
      · intro given
        obtain ⟨first, reply, second, rfl, one, outer, after, rest⟩ := given
        obtain rfl := (silent effect looked first reply).1 one
        exact ⟨outer, ⟨reply, after⟩, rest⟩
      · intro given
        obtain ⟨outer, ⟨reply, after⟩, rest⟩ := given
        exact ⟨[], reply, inner, rfl, (silent effect looked [] reply).2 rfl, outer, after, rest⟩

end Expands

end OidcLogin.Program
