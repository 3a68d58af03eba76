import OidcLogin.Proofs.Identity.Mapping
import OidcLogin.Proofs.Text.Trimming

namespace OidcLogin

namespace UserClaims

-- The groups of a list: every item but null, by its text, in the order of the list.
inductive ItemsName : List Json → List Text → Prop
  | nil : ItemsName [] []
  | null {items : List Json} {groups : List Text} (rest : ItemsName items groups) : ItemsName (.null :: items) groups
  | item {item : Json} {items : List Json} {groups : List Text} (notNull : item ≠ .null)
      (rest : ItemsName items groups) : ItemsName (item :: items) (item.display :: groups)

-- The groups of a claim that may be absent: a text is one group, and what is neither a text nor a list is none.
inductive Names : Option Json → List Text → Prop
  | absent : Names none []
  | text (t : Text) : Names (some (.text t)) [t]
  | list {items : List Json} {groups : List Text} (named : ItemsName items groups) : Names (some (.list items)) groups
  | other {given : Json} (notText : ∀ t, given ≠ .text t) (notList : ∀ items, given ≠ .list items) :
      Names (some given) []

theorem itemsName_iff {items : List Json} {groups : List Text} :
    ItemsName items groups ↔ groups = groupsOf (.list items) := by
  unfold groupsOf
  constructor
  · intro named
    induction named with
    | nil => rfl
    | null rest ih => exact ih
    | @item item _ _ notNull rest ih =>
      subst ih
      cases item with
      | null => exact absurd rfl notNull
      | bool _ | int _ | float _ | text _ | list _ | object _ => rfl
  · rintro rfl
    induction items with
    | nil => exact .nil
    | cons item rest ih =>
      cases item with
      | null => exact .null ih
      | bool _ | int _ | float _ | text _ | list _ | object _ => exact .item nofun ih

theorem names_iff {given : Option Json} {groups : List Text} :
    Names given groups ↔ groups = groupsOf (given.getD .null) := by
  constructor
  · intro names
    cases names with
    | absent | text _ => rfl
    | list named => exact itemsName_iff.1 named
    | @other given notText notList =>
      cases given with
      | text t => exact absurd rfl (notText t)
      | list items => exact absurd rfl (notList items)
      | null | bool _ | int _ | float _ | object _ => rfl
  · rintro rfl
    cases given with
    | none => exact .absent
    | some claim =>
      cases claim with
      | text t => exact .text t
      | list items => exact .list (itemsName_iff.2 rfl)
      | null | bool _ | int _ | float _ | object _ => exact .other nofun nofun

def HasEmail (claims : Members) (email : Text) : Prop :=
  claims.get? "email" = some (.text email) ∧ email.isBlank = false

-- How a user with an email is called: by the trimmed name, or by the email if no name is left.
inductive Called (claims : Members) (email : Text) : Text → Prop
  | name {given kept : Text} (named : claims.get? "name" = some (.text given))
      (trims : Text.Trims CodePoint.isBlank given kept) (full : kept ≠ []) : Called claims email kept
  | email (unnamed : ∀ given, claims.get? "name" = some (.text given) → given.isBlank = true) :
      Called claims email email

theorem called_nameOf (claims : Members) (email : Text) :
    Called claims email ((nameOf ((claims.get? "name").getD .null)).getD email) := by
  cases found : claims.get? "name" with
  | none => exact .email (by simp [found])
  | some given =>
    cases given with
    | text t =>
      change Called claims email (t.trimmed?.getD email)
      cases trimmed : t.trimmed? with
      | some kept =>
        obtain ⟨trims, full⟩ := Text.trimmed?_eq_some.1 trimmed
        exact .name found trims full
      | none =>
        refine .email fun other named => ?_
        cases found.symm.trans named
        exact Text.trimmed?_eq_none.1 trimmed
    | null | bool _ | int _ | float _ | list _ | object _ => exact .email (by simp [found])

theorem Called.isBlank_eq_false {claims : Members} {email displayName : Text}
    (called : Called claims email displayName) (full : email.isBlank = false) : displayName.isBlank = false := by
  cases called with
  | name named trims kept => exact trims.isBlank_eq_false kept
  | email unnamed => exact full

end UserClaims

namespace IdentityMapper

open UserClaims (HasEmail Names Called)

variable {m : IdentityMapper} {claims : Members} {email : Text} {groups : List Text} {failure : Failure}

-- What counts can be read: the email is of Unicode characters, and the groups can be written.
structure IsReadable (m : IdentityMapper) (claims : Members) : Prop where
  email : ∀ email, claims.get? "email" = some (.text email) → email.IsScalar
  groups : UserClaims.Writable ((claims.get? m.groupsClaimName).getD .null)

def Administers (m : IdentityMapper) (groups : List Text) : Prop := ∃ group, m.adminGroup = some group ∧ group ∈ groups

-- The allowed group is not among these, and no other group makes up for it.
def KeepsOut (m : IdentityMapper) (groups : List Text) : Prop :=
  (∃ group, m.allowGroup = some group ∧ group ∉ groups) ∧ ¬ m.Administers groups

structure SameDecision (identity other : UserIdentity) : Prop where
  email : identity.email = other.email
  groups : identity.groups = other.groups
  isAdministrator : identity.isAdministrator = other.isAdministrator

theorem isAllowed_eq_false : m.isAllowed groups = false ↔ ∃ group, m.allowGroup = some group ∧ group ∉ groups := by
  unfold isAllowed
  cases m.allowGroup with
  | none => simp
  | some group => simp

theorem keepsOut_iff : m.KeepsOut groups ↔ m.isAdministrator groups = false ∧ m.isAllowed groups = false := by
  unfold KeepsOut Administers
  rw [← isAllowed_eq_false, ← isAdministrator_iff, Bool.not_eq_true]
  exact And.comm

theorem decide_eq_error {read : UserClaims} :
    (m.decide read).2 = .error failure ↔ failure = .groupsDenied ∧ m.KeepsOut read.groups := by
  rw [keepsOut_iff]
  unfold decide
  dsimp only
  cases m.isAdministrator read.groups with
  | true => simp
  | false =>
    cases m.isAllowed read.groups with
    | true => simp
    | false => simp [eq_comm]

theorem mapClaims_of_hasEmail (readable : m.IsReadable claims) (has : HasEmail claims email) :
    m.mapClaims claims = m.decide ⟨email, UserClaims.nameOf ((claims.get? "name").getD .null), m.groupsIn claims⟩ := by
  have read : UserClaims.read (m.relevant claims)
      = .ok ⟨email, UserClaims.nameOf ((claims.get? "name").getD .null), m.groupsIn claims⟩ :=
    read_relevant_eq_ok.2 ⟨has.1, readable.email email has.1, has.2, rfl, readable.groups, rfl⟩
  unfold mapClaims
  rw [read]
  rfl

theorem findsUnusable_iff_lacks (readable : m.IsReadable claims) :
    m.FindsUnusable claims ↔ ¬ ∃ email, HasEmail claims email := by
  rw [findsUnusable_iff readable.groups, not_iff_not]
  constructor
  · rintro ⟨email, given, _, notBlank⟩
    exact ⟨email, given, notBlank⟩
  · rintro ⟨email, given, notBlank⟩
    exact ⟨email, given, readable.email email given, notBlank⟩

theorem groupDenied_iff (readable : m.IsReadable claims) (has : HasEmail claims email) :
    (∃ failure, (m.mapClaims claims).2 = .error failure ∧ failure.kind = .groupDenied)
      ↔ m.KeepsOut (m.groupsIn claims) := by
  rw [mapClaims_of_hasEmail readable has]
  constructor
  · rintro ⟨failure, failed, _⟩
    exact (decide_eq_error.1 failed).2
  · exact fun keptOut => ⟨.groupsDenied, decide_eq_error.2 ⟨rfl, keptOut⟩, rfl⟩

theorem admitted_of_not_keepsOut (readable : m.IsReadable claims) (has : HasEmail claims email)
    (permitted : ¬ m.KeepsOut (m.groupsIn claims)) :
    ∃ identity, (m.mapClaims claims).2 = .ok identity ∧ identity.email = email
      ∧ identity.groups = m.groupsIn claims
      ∧ (identity.isAdministrator = true ↔ m.Administers (m.groupsIn claims))
      ∧ Called claims email identity.displayName := by
  have mapped := mapClaims_of_hasEmail readable has
  cases decided : (m.mapClaims claims).2 with
  | error failure =>
    rw [mapped] at decided
    exact absurd (decide_eq_error.1 decided).2 permitted
  | ok identity =>
    rw [mapped] at decided
    obtain ⟨_, rfl⟩ := decide_eq_ok.1 decided
    exact ⟨_, rfl, rfl, rfl, isAdministrator_iff, UserClaims.called_nameOf claims email⟩

theorem decides_by_email_and_groups {other : Members} (email : other.get? "email" = claims.get? "email")
    (groups : other.get? m.groupsClaimName = claims.get? m.groupsClaimName) :
    (m.mapClaims other).1 = (m.mapClaims claims).1
      ∧ EndAlike SameDecision (m.mapClaims other).2 (m.mapClaims claims).2 := by
  have alike : Checked.Alike Eq (UserClaims.readEmail ⟨"email", none⟩ ((other.get? "email").getD .null))
      (UserClaims.readEmail ⟨"email", none⟩ ((claims.get? "email").getD .null)) := by
    rw [email]
    exact .refl (fun _ => rfl) _
  obtain ⟨notes, ends⟩ := mapClaims_alike_of_email alike groups
  exact ⟨notes, ends.mono fun _ _ same => ⟨same.1, same.2.1, same.2.2⟩⟩

theorem mapClaims_decides (readable : m.IsReadable claims) :
    ∃ groups, Names (claims.get? m.groupsClaimName) groups
      ∧ (m.FindsUnusable claims ↔ ¬ ∃ email, HasEmail claims email)
      ∧ (∀ email, HasEmail claims email →
          ((∃ failure, (m.mapClaims claims).2 = .error failure ∧ failure.kind = .groupDenied) ↔ m.KeepsOut groups)
          ∧ (¬ m.KeepsOut groups → ∃ identity, (m.mapClaims claims).2 = .ok identity ∧ identity.email = email
              ∧ identity.groups = groups ∧ (identity.isAdministrator = true ↔ m.Administers groups)
              ∧ Called claims email identity.displayName ∧ identity.displayName.isBlank = false))
      ∧ ∀ other : Members, other.get? "email" = claims.get? "email" →
          other.get? m.groupsClaimName = claims.get? m.groupsClaimName →
          (m.mapClaims other).1 = (m.mapClaims claims).1
            ∧ EndAlike SameDecision (m.mapClaims other).2 (m.mapClaims claims).2 := by
  refine ⟨m.groupsIn claims, UserClaims.names_iff.2 rfl, findsUnusable_iff_lacks readable, ?_,
    fun other email groups => decides_by_email_and_groups email groups⟩
  intro email has
  refine ⟨groupDenied_iff readable has, fun permitted => ?_⟩
  obtain ⟨identity, mapped, sameEmail, groups, administrator, called⟩ :=
    admitted_of_not_keepsOut readable has permitted
  exact ⟨identity, mapped, sameEmail, groups, administrator, called, called.isBlank_eq_false has.2⟩

theorem mapClaims_decides_of_staff :
    Sample.mapper.IsReadable Sample.claims ∧ HasEmail Sample.claims "a@b.c"
      ∧ ∃ identity, (Sample.mapper.mapClaims Sample.claims).2 = .ok identity ∧ identity.groups = Sample.identity.groups
        ∧ identity.isAdministrator = false ∧ Called Sample.claims "a@b.c" identity.displayName := by
  have readable : Sample.mapper.IsReadable Sample.claims := by
    refine ⟨?_, ?_⟩
    · rintro email ⟨⟩
      decide
    · rintro items ⟨⟩
      rfl
  have has : HasEmail Sample.claims "a@b.c" := ⟨rfl, by decide⟩
  obtain ⟨groups, names, _, decided, _⟩ := mapClaims_decides readable
  obtain rfl : groups = Sample.identity.groups := UserClaims.names_iff.1 names
  have permitted : ¬ Sample.mapper.KeepsOut Sample.identity.groups := by
    rw [keepsOut_iff]
    decide
  obtain ⟨identity, mapped, _, sameGroups, administrator, called, _⟩ := (decided "a@b.c" has).2 permitted
  refine ⟨readable, has, identity, mapped, sameGroups, ?_, called⟩
  rw [← Bool.not_eq_true, administrator, Administers]
  decide

end IdentityMapper

end OidcLogin
