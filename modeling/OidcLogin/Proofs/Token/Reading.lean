import OidcLogin.Proofs.Validation.Wholes
import OidcLogin.Token.Response

namespace OidcLogin

namespace Members

variable {members : Members} {name : Text}

-- A member that may be left out, or be null, and else gives a value.
inductive Optionally {α : Type} (R : Json → α → Prop) : Option Json → Option α → Prop
  | absent : Optionally R none none
  | null : Optionally R (some .null) none
  | given {json : Json} {a : α} (notNull : json ≠ .null) (read : R json a) : Optionally R (some json) (some a)

theorem withDefault_optional_eq_ok {α : Type} {R : Json → α → Prop} {reader : Reader α} {a? : Option α}
    (exact : ∀ {place : Place} {json : Json} {a : α}, reader place json = .ok a ↔ R json a) :
    members.withDefault name none (.optional reader) = .ok a? ↔ Optionally R (members.get? name) a? := by
  unfold withDefault
  cases found : members.get? name with
  | none =>
    constructor
    · rintro ⟨⟩
      exact .absent
    · rintro ⟨⟩
      rfl
  | some json =>
    dsimp only
    by_cases null : json = .null
    · subst null
      constructor
      · rintro ⟨⟩
        exact .null
      · intro optionally
        cases optionally with
        | null => rfl
        | given notNull _ => exact absurd rfl notNull
    · have read : Reader.optional reader ⟨name, none⟩ json = some <$> reader ⟨name, none⟩ json := by
        cases json with
        | null => exact absurd rfl null
        | bool _ | int _ | float _ | text _ | list _ | object _ => rfl
      rw [read, Checked.map_eq_ok]
      constructor
      · rintro ⟨a, given, rfl⟩
        exact .given null (exact.1 given)
      · intro optionally
        cases optionally with
        | null => exact absurd rfl null
        | given _ given => exact ⟨_, exact.2 given, rfl⟩

end Members

open Members (Optionally)

def Reader.IsText (json : Json) (t : Text) : Prop := json = .text t

theorem Reader.text_eq_ok {place : Place} {json : Json} {t : Text} : text place json = .ok t ↔ IsText json t := by
  unfold IsText
  cases json with
  | text given => simp [text]
  | null | bool _ | int _ | float _ | list _ | object _ => simp [text, Checked.refuse]

namespace TokenResponse

variable {payload : Members} {token : TokenResponse}

structure NamesToken (payload : Members) (accessToken tokenType : Text) : Prop where
  named : payload.get? "access_token" = some (.text accessToken)
  scalar : accessToken.IsScalar
  full : accessToken ≠ []
  typed : payload.get? "token_type" = some (.text tokenType)

-- The members that a token may have besides can be read, if they are there.
structure OptionalsFit (payload : Members) : Prop where
  idToken : ∃ t?, Optionally Reader.IsText (payload.get? "id_token") t?
  refreshToken : ∃ t?, Optionally Reader.IsText (payload.get? "refresh_token") t?
  expiresIn : ∃ n?, Optionally Reader.IsWhole (payload.get? "expires_in") n?
  scope : ∃ t?, Optionally Reader.IsText (payload.get? "scope") t?

theorem optionalText_eq_ok {name : Text} {t? : Option Text} :
    payload.withDefault name none (.optional Reader.text) = .ok t? ↔ Optionally Reader.IsText (payload.get? name) t? :=
  Members.withDefault_optional_eq_ok Reader.text_eq_ok

theorem optionalInt_eq_ok {name : Text} {n? : Option Int} :
    payload.withDefault name none (.optional Reader.int) = .ok n? ↔ Optionally Reader.IsWhole (payload.get? name) n? :=
  Members.withDefault_optional_eq_ok Reader.int_eq_ok

theorem read_eq_ok :
    read payload = .ok token
      ↔ NamesToken payload token.accessToken token.tokenType
        ∧ Optionally Reader.IsText (payload.get? "id_token") token.idToken
        ∧ Optionally Reader.IsText (payload.get? "refresh_token") token.refreshToken
        ∧ Optionally Reader.IsWhole (payload.get? "expires_in") token.expiresIn
        ∧ Optionally Reader.IsText (payload.get? "scope") token.scope := by
  simp only [← optionalText_eq_ok, ← optionalInt_eq_ok]
  unfold read
  constructor
  · intro made
    obtain ⟨_, scope, throughExpiry, limited, rfl⟩ := Checked.seq_eq_ok.1 made
    obtain ⟨_, expiresIn, throughRefresh, expires, rfl⟩ := Checked.seq_eq_ok.1 throughExpiry
    obtain ⟨_, refreshToken, throughId, refreshed, rfl⟩ := Checked.seq_eq_ok.1 throughRefresh
    obtain ⟨_, idToken, throughType, identified, rfl⟩ := Checked.seq_eq_ok.1 throughId
    obtain ⟨_, tokenType, first, typed, rfl⟩ := Checked.seq_eq_ok.1 throughType
    obtain ⟨accessToken, found, rfl⟩ := Checked.map_eq_ok.1 first
    obtain ⟨_, given, accessible⟩ := Members.required_eq_ok.1 found
    obtain ⟨rfl, scalar, full⟩ := Reader.nonEmptyText_eq_ok.1 accessible
    obtain ⟨_, named, isText⟩ := Members.required_eq_ok.1 typed
    cases Reader.text_eq_ok.1 isText
    exact ⟨⟨given, scalar, full, named⟩, identified, refreshed, expires, limited⟩
  · obtain ⟨accessToken, tokenType, idToken, refreshToken, expiresIn, scope⟩ := token
    rintro ⟨⟨given, scalar, full, named⟩, identified, refreshed, expires, limited⟩
    have accessible := Members.required_eq_ok.2 ⟨_, given, Reader.nonEmptyText_eq_ok.2 ⟨rfl, scalar, full⟩⟩
    have typed := Members.required_eq_ok.2 ⟨_, named, Reader.text_eq_ok.2 rfl⟩
    refine Checked.seq_eq_ok.2 ⟨_, _, ?_, limited, rfl⟩
    refine Checked.seq_eq_ok.2 ⟨_, _, ?_, expires, rfl⟩
    refine Checked.seq_eq_ok.2 ⟨_, _, ?_, refreshed, rfl⟩
    refine Checked.seq_eq_ok.2 ⟨_, _, ?_, identified, rfl⟩
    exact Checked.seq_eq_ok.2 ⟨_, _, Checked.map_eq_ok.2 ⟨_, accessible, rfl⟩, typed, rfl⟩

theorem exists_read_iff {accessToken tokenType : Text} :
    (∃ token, read payload = .ok token ∧ token.accessToken = accessToken ∧ token.tokenType = tokenType)
      ↔ NamesToken payload accessToken tokenType ∧ OptionalsFit payload := by
  constructor
  · rintro ⟨token, made, rfl, rfl⟩
    obtain ⟨names, identified, refreshed, expires, limited⟩ := read_eq_ok.1 made
    exact ⟨names, ⟨_, identified⟩, ⟨_, refreshed⟩, ⟨_, expires⟩, ⟨_, limited⟩⟩
  · rintro ⟨names, ⟨idToken, identified⟩, ⟨refreshToken, refreshed⟩, ⟨expiresIn, expires⟩, ⟨scope, limited⟩⟩
    exact ⟨⟨accessToken, tokenType, idToken, refreshToken, expiresIn, scope⟩,
      read_eq_ok.2 ⟨names, identified, refreshed, expires, limited⟩, rfl, rfl⟩

end TokenResponse

end OidcLogin
