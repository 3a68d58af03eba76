import OidcLogin.Proofs.Client.Requests

namespace OidcLogin

open Program

def NetEffect.note? : NetEffect → Option Note
  | .note n => some n
  | _ => none

def notesOf (history : List NetExchange) : List Note := history.filterMap (·.1.note?)

-- The stretch of a history that takes these notes.
def noting (notes : List Note) : List NetExchange := notes.map fun n => ⟨.note n, ()⟩

section Noting

variable {notes : List Note} {exchange : NetExchange}

theorem notesOf_append (first rest : List NetExchange) : notesOf (first ++ rest) = notesOf first ++ notesOf rest :=
  List.filterMap_append

@[simp]
theorem notesOf_noting (notes : List Note) : notesOf (noting notes) = notes := by
  unfold notesOf noting
  rw [List.filterMap_map]
  exact List.filterMap_some

theorem mem_noting : exchange ∈ noting notes ↔ ∃ n ∈ notes, exchange = ⟨.note n, ()⟩ := by
  simp [noting, eq_comm]

theorem not_isAct_of_mem_noting (member : exchange ∈ noting notes) : exchange.1.isAct = false := by
  obtain ⟨n, _, rfl⟩ := mem_noting.1 member
  rfl

theorem traceOf_noting (notes : List Note) : traceOf NetEffect.isAct (noting notes) = [] :=
  List.filter_eq_nil_iff.2 fun _ member => by simp [not_isAct_of_mem_noting member]

end Noting

namespace NetProgram

variable {α β : Type} {n : Note} {notes : List Note} {history : List NetExchange}

theorem runs_note_bind {f : Unit → NetProgram α} {result : α} :
    Runs (note n >>= f) history result ↔ ∃ rest, history = noting [n] ++ rest ∧ Runs (f ()) rest result := by
  change Runs (.ask (.note n) fun _ => f ()) history result ↔ _
  rw [runs_ask]
  constructor
  · rintro ⟨_, rest, rfl, after⟩
    exact ⟨rest, rfl, after⟩
  · rintro ⟨rest, rfl, after⟩
    exact ⟨(), rest, rfl, after⟩

theorem runs_noteAll_bind {f : Unit → NetProgram α} {result : α} :
    Runs (noteAll notes >>= f) history result ↔ ∃ rest, history = noting notes ++ rest ∧ Runs (f ()) rest result := by
  induction notes generalizing history with
  | nil => exact ⟨fun runs => ⟨history, rfl, runs⟩, fun ⟨rest, same, runs⟩ => same ▸ runs⟩
  | cons n notes ih =>
    change Runs (note n >>= fun _ => noteAll notes >>= f) history result ↔ _
    rw [runs_note_bind]
    constructor
    · rintro ⟨rest, rfl, after⟩
      obtain ⟨later, rfl, runs⟩ := ih.1 after
      exact ⟨later, rfl, runs⟩
    · rintro ⟨later, rfl, runs⟩
      exact ⟨noting notes ++ later, rfl, ih.2 ⟨later, rfl, runs⟩⟩

theorem runs_noteAll_pure {value result : α} :
    Runs (noteAll notes >>= fun _ => pure value) history result ↔ history = noting notes ∧ result = value := by
  rw [runs_noteAll_bind]
  constructor
  · rintro ⟨rest, rfl, finished⟩
    obtain ⟨rfl, rfl⟩ := runs_done.1 finished
    exact ⟨List.append_nil _, rfl⟩
  · rintro ⟨rfl, rfl⟩
    exact ⟨[], (List.append_nil _).symm, .done _⟩

-- A program that ends with the notes of its result.
theorem runs_settled {program : NetProgram α} {settle : α → List Note × β} {result : β} :
    Runs (program >>= fun value => noteAll (settle value).1 >>= fun _ => pure (settle value).2) history result
      ↔ ∃ before value, Runs program before value ∧ history = before ++ noting (settle value).1
          ∧ result = (settle value).2 := by
  refine runs_bind.trans ?_
  constructor
  · rintro ⟨before, value, after, rfl, runs, settled⟩
    obtain ⟨rfl, rfl⟩ := runs_noteAll_pure.1 settled
    exact ⟨before, value, runs, rfl, rfl⟩
  · rintro ⟨before, value, runs, rfl, rfl⟩
    exact ⟨before, value, _, rfl, runs, runs_noteAll_pure.2 ⟨rfl, rfl⟩⟩

theorem runs_answered {client : HttpClient} {method url content : Text} {headers : Http.Headers}
    {settle : Except Http.FetchFault (Http.Response × Json) → List Note × α} {request : Http.Request}
    {outcome : Http.Answer} {result : α}
    (runs : Runs (fetch client method url headers content >>= fun fetched =>
      noteAll (settle fetched).1 >>= fun _ => pure (settle fetched).2)
      (⟨.send client request, outcome⟩ :: history) result) :
    history = noting (settle (Http.receive url request outcome)).1
      ∧ result = (settle (Http.receive url request outcome)).2 := by
  obtain ⟨before, fetched, fetches, together, rfl⟩ := runs_settled.1 runs
  rcases runs_fetch.1 fetches with ⟨_, _, rfl, _⟩ | ⟨_, _, _, rfl, rfl⟩
  · -- what is noted is no request
    have noted : (⟨.send client request, outcome⟩ : NetExchange) ∈ noting (settle fetched).1 := by
      rw [← List.nil_append (noting _), ← together]
      exact List.mem_cons_self
    cases not_isAct_of_mem_noting noted
  · cases together
    exact ⟨rfl, rfl⟩

theorem runs_of_answer (client : HttpClient) {method url content : Text} {headers : Http.Headers}
    {request : Http.Request} (made : Http.prepare method url headers content = .ok request)
    (settle : Except Http.FetchFault (Http.Response × Json) → List Note × α) (outcome : Http.Answer) :
    Runs (fetch client method url headers content >>= fun fetched =>
        noteAll (settle fetched).1 >>= fun _ => pure (settle fetched).2)
      (⟨.send client request, outcome⟩ :: noting (settle (Http.receive url request outcome)).1)
      (settle (Http.receive url request outcome)).2 :=
  have fetches := runs_fetch.2 (.inr ⟨request, outcome, made, rfl, rfl⟩)
  runs_settled.2 ⟨[⟨.send client request, outcome⟩], _, fetches, rfl, rfl⟩

end NetProgram

end OidcLogin
