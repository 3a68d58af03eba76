import OidcLogin.Json.Reader

namespace OidcLogin

namespace Members

def ofTexts (pairs : List (Text × Text)) : Members := pairs.map fun pair => (pair.1, .text pair.2)

def texts? : Members → Option (List (Text × Text))
  | [] => some []
  | (name, .text t) :: rest => (texts? rest).map ((name, t) :: ·)
  | _ => none

theorem eq_of_texts? {members : Members} {pairs : List (Text × Text)} (read : members.texts? = some pairs) :
    members = ofTexts pairs := by
  induction members generalizing pairs with
  | nil =>
    cases read
    rfl
  | cons first rest ih =>
    match first with
    | (name, .text t) =>
      obtain ⟨others, later, rfl⟩ := Option.map_eq_some_iff.1 read
      rw [ih later]
      rfl
    | (_, .null) | (_, .bool _) | (_, .int _) | (_, .float _) | (_, .list _) | (_, .object _) => cases read

end Members

namespace Json

-- Documents cannot be compared, but what is read of them can.

def objectOf? : Except DocumentFault Json → Option Members
  | .ok (.object members) => some members
  | _ => none

def textOf? : Except DocumentFault Json → Option Text
  | .ok (.text t) => some t
  | _ => none

variable {read : Except DocumentFault Json}

theorem objectOf?_eq_some {members : Members} : objectOf? read = some members ↔ read = .ok (.object members) := by
  constructor
  · intro found
    unfold objectOf? at found
    split at found
    · cases found
      rfl
    · cases found
  · rintro rfl
    rfl

theorem textOf?_eq_some {t : Text} : textOf? read = some t ↔ read = .ok (.text t) := by
  constructor
  · intro found
    unfold textOf? at found
    split at found
    · cases found
      rfl
    · cases found
  · rintro rfl
    rfl

theorem exists_object {accepts : Members → Bool} (found : (objectOf? read).any accepts = true) :
    ∃ members, read = .ok (.object members) ∧ accepts members = true := by
  obtain ⟨members, isObject, accepted⟩ := (Option.any_eq_true _ _).1 found
  exact ⟨members, objectOf?_eq_some.1 isObject, accepted⟩

theorem exists_text {accepts : Text → Bool} (found : (textOf? read).any accepts = true) :
    ∃ t, read = .ok (.text t) ∧ accepts t = true := by
  obtain ⟨t, isText, accepted⟩ := (Option.any_eq_true _ _).1 found
  exact ⟨t, textOf?_eq_some.1 isText, accepted⟩

theorem eq_object_of_texts? {pairs : List (Text × Text)} (texts : (objectOf? read).bind Members.texts? = some pairs) :
    read = .ok (.object (Members.ofTexts pairs)) := by
  obtain ⟨members, isObject, same⟩ := Option.bind_eq_some_iff.1 texts
  rw [objectOf?_eq_some.1 isObject, Members.eq_of_texts? same]

end Json

end OidcLogin
