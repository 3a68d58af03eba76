import OidcLogin.Validation.Scalar

namespace OidcLogin

section Except

variable {ε α β : Type}

theorem except_bind_eq_ok {first : Except ε α} {next : α → Except ε β} {value : β} :
    (first >>= next) = .ok value ↔ ∃ middle, first = .ok middle ∧ next middle = .ok value := by
  cases first with
  | error fault => simp [bind, Except.bind]
  | ok middle => simp [bind, Except.bind]

theorem except_map_eq_ok {first : Except ε α} {f : α → β} {value : β} :
    first.map f = .ok value ↔ ∃ middle, first = .ok middle ∧ f middle = value := by
  cases first with
  | error fault => simp [Except.map]
  | ok middle => simp [Except.map]

theorem except_mapError_eq_ok {δ : Type} {result : Except ε α} {f : ε → δ} {value : α} :
    result.mapError f = .ok value ↔ result = .ok value := by
  cases result with
  | error fault =>
    constructor
    · intro impossible; cases impossible
    · intro impossible; cases impossible
  | ok given =>
    constructor
    · intro same; cases same; rfl
    · intro same; cases same; rfl

-- Options can be compared where failures cannot.
theorem except_eq_ok_of_toOption {result : Except ε α} {value : α}
    (found : result.toOption = some value) : result = .ok value := by
  cases result with
  | error fault => cases found
  | ok given => exact congrArg Except.ok (Option.some.inj found)

end Except

namespace Checked

variable {α β : Type}

theorem map_eq_ok {f : α → β} {checked : Checked α} {value : β} :
    f <$> checked = .ok value ↔ ∃ read, checked = .ok read ∧ f read = value := by
  cases checked with
  | ok read => simp [Functor.map, Checked.map]
  | refused violations => simp [Functor.map, Checked.map]

theorem seq_eq_ok {f : Checked (α → β)} {checked : Checked α} {value : β} :
    f <*> checked = .ok value ↔ ∃ g read, f = .ok g ∧ checked = .ok read ∧ g read = value := by
  cases f <;> cases checked <;> simp [Seq.seq, Checked.both]

theorem andThen_eq_ok {checked : Checked α} {next : α → Checked β} {value : β} :
    checked.andThen next = .ok value ↔ ∃ read, checked = .ok read ∧ next read = .ok value := by
  cases checked with
  | ok read => simp [andThen]
  | refused violations => simp [andThen]

theorem toExcept_eq_ok {model : Text} {checked : Checked α} {value : α} :
    checked.toExcept model = .ok value ↔ checked = .ok value := by
  cases checked with
  | ok read => simp [toExcept]
  | refused violations => simp [toExcept]

end Checked

namespace Members

variable {α : Type} {members : Members} {name : Text} {read : Reader α} {value : α}

theorem required_eq_ok :
    members.required name read = .ok value
      ↔ ∃ given, members.get? name = some given ∧ read ⟨name, none⟩ given = .ok value := by
  unfold required
  cases members.get? name with
  | none => simp [Checked.refuse]
  | some given => simp

end Members

theorem Text.any_isSurrogate_eq_false {t : Text} :
    t.any CodePoint.isSurrogate = false ↔ t.IsScalar := by
  simp [Text.IsScalar, CodePoint.IsScalar]

namespace Reader

theorem nonEmptyText_eq_ok {place : Place} {given : Json} {t : Text} :
    nonEmptyText place given = .ok t ↔ given = .text t ∧ t.IsScalar ∧ t ≠ [] := by
  cases given with
  | text given =>
    change (if given.any CodePoint.isSurrogate then _ else _) = Checked.ok t ↔ _
    cases surrogate : given.any CodePoint.isSurrogate with
    | true =>
      constructor
      · intro refused
        cases refused
      · intro given
        obtain ⟨same, scalar, _⟩ := given
        cases same
        rw [Text.any_isSurrogate_eq_false.2 scalar] at surrogate
        cases surrogate
    | false =>
      have scalar := Text.any_isSurrogate_eq_false.1 surrogate
      cases given with
      | nil =>
        constructor
        · intro refused
          cases refused
        · intro given
          obtain ⟨same, _, notEmpty⟩ := given
          cases same
          exact absurd rfl notEmpty
      | cons c rest =>
        constructor
        · intro read
          cases read
          exact ⟨rfl, scalar, List.cons_ne_nil c rest⟩
        · intro given
          obtain ⟨same, _⟩ := given
          cases same
          rfl
  | null | bool _ | int _ | float _ | list _ | object _ => simp [nonEmptyText, Checked.refuse]

end Reader

end OidcLogin
