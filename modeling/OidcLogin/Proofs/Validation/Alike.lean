import OidcLogin.Validation.Checked

namespace OidcLogin

inductive EndAlike {ε α β : Type} (R : α → β → Prop) : Except ε α → Except ε β → Prop
  | failed (fault : ε) : EndAlike R (.error fault) (.error fault)
  | done {a : α} {b : β} (alike : R a b) : EndAlike R (.ok a) (.ok b)

namespace EndAlike

variable {ε κ α β γ δ : Type} {R : α → β → Prop} {S : γ → δ → Prop} {first : Except ε α} {second : Except ε β}

theorem ends (both : EndAlike R first second) :
    (∃ fault, first = .error fault ∧ second = .error fault)
      ∨ ∃ a b, first = .ok a ∧ second = .ok b ∧ R a b := by
  cases both with
  | failed fault => exact .inl ⟨fault, rfl, rfl⟩
  | done alike => exact .inr ⟨_, _, rfl, rfl, alike⟩

theorem refl {R : α → α → Prop} (same : ∀ a, R a a) (result : Except ε α) : EndAlike R result result := by
  cases result with
  | error fault => exact .failed fault
  | ok a => exact .done (same a)

theorem mono {S : α → β → Prop} (weaker : ∀ a b, R a b → S a b) (both : EndAlike R first second) :
    EndAlike S first second := by
  cases both with
  | failed fault => exact .failed fault
  | done alike => exact .done (weaker _ _ alike)

theorem map {f : α → γ} {g : β → δ} (both : EndAlike R first second) (after : ∀ a b, R a b → S (f a) (g b)) :
    EndAlike S (first.map f) (second.map g) := by
  cases both with
  | failed fault => exact .failed fault
  | done alike => exact .done (after _ _ alike)

theorem mapError (f : ε → κ) (both : EndAlike R first second) : EndAlike R (first.mapError f) (second.mapError f) := by
  cases both with
  | failed fault => exact .failed _
  | done alike => exact .done alike

end EndAlike

namespace Checked

inductive Alike {α β : Type} (R : α → β → Prop) : Checked α → Checked β → Prop
  | refused (violations : List Violation) : Alike R (.refused violations) (.refused violations)
  | ok {a : α} {b : β} (alike : R a b) : Alike R (.ok a) (.ok b)

namespace Alike

variable {α β γ δ : Type} {R : α → β → Prop} {S : γ → δ → Prop} {first : Checked α} {second : Checked β}

theorem refl {R : α → α → Prop} (same : ∀ a, R a a) (checked : Checked α) : Alike R checked checked := by
  cases checked with
  | refused violations => exact .refused violations
  | ok a => exact .ok (same a)

theorem map {f : α → γ} {g : β → δ} (functions : ∀ a b, R a b → S (f a) (g b)) (both : Alike R first second) :
    Alike S (f <$> first) (g <$> second) := by
  cases both with
  | refused violations => exact .refused violations
  | ok alike => exact .ok (functions _ _ alike)

theorem seq {f : Checked (α → γ)} {g : Checked (β → δ)}
    (functions : Alike (fun p q => ∀ a b, R a b → S (p a) (q b)) f g) (both : Alike R first second) :
    Alike S (f <*> first) (g <*> second) := by
  cases functions with
  | refused violations =>
    cases both with
    | refused others => exact .refused _
    | ok alike => exact .refused violations
  | ok apply =>
    cases both with
    | refused others => exact .refused others
    | ok alike => exact .ok (apply _ _ alike)

theorem toExcept (model : Text) (both : Alike R first second) :
    EndAlike R (first.toExcept model) (second.toExcept model) := by
  cases both with
  | refused violations => exact .failed _
  | ok alike => exact .done alike

end Alike

end Checked

end OidcLogin
