import OidcLogin.Telemetry.Basic

namespace OidcLogin.Span

variable {s : Span} {name other : Text} {value : Attribute} {events rest : List Event}

def attribute? (s : Span) (name : Text) : Option Attribute := s.attributes.lookup name

def Event.isInner : Event → Bool
  | .start _ | .finish => false
  | _ => true

-- The values that an attribute is given, one after the other.
def valuesOf (name : Text) (events : List Event) : List Attribute :=
  events.filterMap fun
    | .attribute other value => if other = name then some value else none
    | _ => none

def failuresOf (events : List Event) : List Kind :=
  events.filterMap fun
    | .failure kind => some kind
    | _ => none

def statusesOf (events : List Event) : List Status :=
  events.filterMap fun
    | .status status => some status
    | _ => none

def settle (old new : Status) : Status := if old = .ok ∨ new = .unset then old else new

theorem lookup_cons_of_ne {attributes : List (Text × Attribute)} (apart : other ≠ name) :
    ((name, value) :: attributes).lookup other = attributes.lookup other := by
  rw [List.lookup_cons, beq_false_of_ne apart]

theorem lookup_replaced (attributes : List (Text × Attribute)) (name : Text) (value : Attribute) (other : Text) :
    (attributes.map fun (key, old) => (key, if key = name then value else old)).lookup other
      = if other = name then (attributes.lookup other).map fun _ => value else attributes.lookup other := by
  induction attributes with
  | nil => exact (ite_self _).symm
  | cons first attributes ih =>
    obtain ⟨key, old⟩ := first
    rw [List.map_cons]
    by_cases here : other = key
    · subst here
      rw [List.lookup_cons_self, List.lookup_cons_self]
      split
      · rfl
      · rfl
    · rw [lookup_cons_of_ne here, lookup_cons_of_ne here, ih]

theorem attribute?_setAttribute (s : Span) (name : Text) (value : Attribute) (other : Text) :
    (s.setAttribute name value).attribute? other = if other = name then some value else s.attribute? other := by
  unfold setAttribute attribute?
  split
  · rename_i present
    obtain ⟨pair, member, same⟩ := List.any_eq_true.1 present
    dsimp only
    rw [lookup_replaced]
    split
    · rename_i asked
      subst asked
      cases found : s.attributes.lookup other with
      | none =>
        have differs := List.lookup_eq_none_iff.1 found pair member
        simp [of_decide_eq_true same] at differs
      | some old => rfl
    · rfl
  · rename_i absent
    rw [List.lookup_append]
    split
    · rename_i asked
      subst asked
      have none : s.attributes.lookup other = none := by
        refine List.lookup_eq_none_iff.2 fun pair member => ?_
        have differs : pair.1 ≠ other := fun same =>
          absent (List.any_eq_true.2 ⟨pair, member, decide_eq_true same⟩)
        simpa using differs.symm
      rw [none, List.lookup_cons_self]
      rfl
    · rename_i apart
      rw [lookup_cons_of_ne apart]
      exact Option.or_none

theorem failures_setAttribute (s : Span) (name : Text) (value : Attribute) :
    (s.setAttribute name value).failures = s.failures := by
  unfold setAttribute
  split
  · rfl
  · rfl

theorem status_setAttribute (s : Span) (name : Text) (value : Attribute) :
    (s.setAttribute name value).status = s.status := by
  unfold setAttribute
  split
  · rfl
  · rfl

theorem setStatus_eq (s : Span) (status : Status) :
    s.setStatus status = { s with status := settle s.status status } := by
  unfold setStatus settle
  split
  · rfl
  · rfl

theorem attribute?_record (s : Span) (event : Event) (name : Text) :
    (s.record event).attribute? name = (valuesOf name [event]).getLast?.or (s.attribute? name) := by
  match event with
  | .attribute other value =>
    rw [record, attribute?_setAttribute]
    by_cases same : name = other
    · simp [valuesOf, same]
    · simp [valuesOf, same, Ne.symm same]
  | .status status =>
    rw [record, setStatus_eq]
    rfl
  | .start _ => rfl
  | .failure _ => rfl
  | .finish => rfl

theorem failures_record (s : Span) (event : Event) :
    (s.record event).failures = s.failures ++ failuresOf [event] := by
  have none : s.failures = s.failures ++ [] := (List.append_nil _).symm
  match event with
  | .failure kind => rfl
  | .attribute name value => exact (failures_setAttribute s name value).trans none
  | .status status =>
    rw [record, setStatus_eq]
    exact none
  | .start _ => exact none
  | .finish => exact none

theorem status_record (s : Span) (event : Event) :
    (s.record event).status = (statusesOf [event]).foldl settle s.status := by
  match event with
  | .status status =>
    rw [record, setStatus_eq]
    rfl
  | .attribute name value => exact status_setAttribute s name value
  | .start _ => rfl
  | .failure _ => rfl
  | .finish => rfl

theorem valuesOf_append (name : Text) (first rest : List Event) :
    valuesOf name (first ++ rest) = valuesOf name first ++ valuesOf name rest := List.filterMap_append

theorem failuresOf_append (first rest : List Event) :
    failuresOf (first ++ rest) = failuresOf first ++ failuresOf rest := List.filterMap_append

theorem statusesOf_append (first rest : List Event) :
    statusesOf (first ++ rest) = statusesOf first ++ statusesOf rest := List.filterMap_append

theorem attribute?_foldl (s : Span) (name : Text) (events : List Event) :
    (events.foldl record s).attribute? name = (valuesOf name events).getLast?.or (s.attribute? name) := by
  induction events generalizing s with
  | nil => rfl
  | cons event events ih =>
    have parts : valuesOf name (event :: events) = _ := valuesOf_append name [event] events
    rw [List.foldl_cons, ih, attribute?_record, parts, List.getLast?_append, Option.or_assoc]

theorem failures_foldl (s : Span) (events : List Event) :
    (events.foldl record s).failures = s.failures ++ failuresOf events := by
  induction events generalizing s with
  | nil => exact (List.append_nil _).symm
  | cons event events ih =>
    have parts : failuresOf (event :: events) = _ := failuresOf_append [event] events
    rw [List.foldl_cons, ih, failures_record, parts, List.append_assoc]

theorem status_foldl (s : Span) (events : List Event) :
    (events.foldl record s).status = (statusesOf events).foldl settle s.status := by
  induction events generalizing s with
  | nil => rfl
  | cons event events ih =>
    have parts : statusesOf (event :: events) = _ := statusesOf_append [event] events
    rw [List.foldl_cons, ih, status_record, parts, List.foldl_append]

-- A span that is left is all that was recorded in between.
theorem collect_inner (inner : ∀ event ∈ events, event.isInner = true) :
    collect (some s) (events ++ .finish :: rest) = events.foldl record s :: collect none rest := by
  induction events generalizing s with
  | nil => rfl
  | cons event events ih =>
    obtain ⟨first, others⟩ := List.forall_mem_cons.1 inner
    match event with
    | .start _ => cases first
    | .finish => cases first
    | .attribute name value => exact ih others
    | .failure kind => exact ih others
    | .status status => exact ih others

end OidcLogin.Span
