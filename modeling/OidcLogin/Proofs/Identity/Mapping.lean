import OidcLogin.Identity.Mapper
import OidcLogin.Proofs.Validation.Alike
import OidcLogin.Proofs.Validation.Success

namespace OidcLogin

namespace UserClaims

theorem readEmail_eq_ok {place : Place} {given : Json} {email : Text} :
    readEmail place given = .ok email
      ↔ given = .text email ∧ email.IsScalar ∧ email.isBlank = false := by
  unfold readEmail
  rw [Checked.andThen_eq_ok]
  constructor
  · intro read
    obtain ⟨t, found, kept⟩ := read
    obtain ⟨rfl, scalar, _⟩ := Reader.nonEmptyText_eq_ok.1 found
    cases blank : t.isBlank with
    | true =>
      rw [blank, if_pos rfl] at kept
      cases kept
    | false =>
      rw [blank, if_neg Bool.false_ne_true] at kept
      cases kept
      exact ⟨rfl, scalar, blank⟩
  · intro told
    obtain ⟨rfl, scalar, notBlank⟩ := told
    have full : email ≠ [] := by
      intro empty
      subst empty
      cases notBlank
    refine ⟨email, Reader.nonEmptyText_eq_ok.2 ⟨rfl, scalar, full⟩, ?_⟩
    rw [notBlank, if_neg Bool.false_ne_true]

def Writable (claim : Json) : Prop := ∀ items, claim = .list items → Json.allWritable items = true

theorem readGroups_eq_ok {place : Place} {claim : Json} {groups : List Text} :
    readGroups place claim = .ok groups ↔ Writable claim ∧ groups = groupsOf claim := by
  unfold readGroups
  split
  · rename_i items
    cases written : Json.allWritable items with
    | true =>
      rw [if_pos rfl]
      constructor
      · intro read
        cases read
        refine ⟨?_, rfl⟩
        intro other same
        cases same
        exact written
      · intro told
        rw [told.2]
    | false =>
      rw [if_neg Bool.false_ne_true]
      constructor
      · intro impossible
        cases impossible
      · intro told
        rw [told.1 items rfl] at written
        cases written
  · rename_i notList
    constructor
    · intro read
      cases read
      exact ⟨fun items same => absurd same (notList items), rfl⟩
    · intro told
      rw [told.2]

end UserClaims

namespace IdentityMapper

variable {m : IdentityMapper} {claims : Members} {identity : UserIdentity}

def groupsIn (m : IdentityMapper) (claims : Members) : List Text :=
  UserClaims.groupsOf ((claims.get? m.groupsClaimName).getD .null)

theorem isAdministrator_iff {groups : List Text} :
    m.isAdministrator groups = true ↔ ∃ group, m.adminGroup = some group ∧ group ∈ groups := by
  unfold isAdministrator
  cases m.adminGroup with
  | none => simp
  | some group => simp

theorem isAllowed_iff {groups : List Text} :
    m.isAllowed groups = true
      ↔ m.allowGroup = none ∨ ∃ group, m.allowGroup = some group ∧ group ∈ groups := by
  unfold isAllowed
  cases m.allowGroup with
  | none => simp
  | some group => simp

theorem decide_eq_ok {claims : UserClaims} :
    (m.decide claims).2 = .ok identity
      ↔ (m.isAdministrator claims.groups = true ∨ m.isAllowed claims.groups = true)
        ∧ identity = ⟨claims.email, claims.name.getD claims.email, claims.groups,
            m.isAdministrator claims.groups⟩ := by
  unfold decide
  dsimp only
  cases permitted : m.isAdministrator claims.groups || m.isAllowed claims.groups with
  | true =>
    rw [if_pos rfl]
    constructor
    · intro same
      cases same
      exact ⟨Bool.or_eq_true_iff.1 permitted, rfl⟩
    · intro told
      rw [told.2]
  | false =>
    rw [if_neg Bool.false_ne_true]
    constructor
    · intro impossible
      cases impossible
    · intro told
      rw [Bool.or_eq_true_iff.2 told.1] at permitted
      cases permitted

theorem get?_relevant_email :
    (m.relevant claims).get? "email" = some ((claims.get? "email").getD .null) := rfl

theorem get?_relevant_name :
    (m.relevant claims).get? "name" = some ((claims.get? "name").getD .null) := rfl

theorem get?_relevant_groups :
    (m.relevant claims).get? "groups" = some ((claims.get? m.groupsClaimName).getD .null) := rfl

theorem email_of_relevant {email : Text} :
    (claims.get? "email").getD .null = .text email ↔ claims.get? "email" = some (.text email) := by
  cases claims.get? "email" with
  | none => simp
  | some given => simp

theorem read_relevant_eq_ok {read : UserClaims} :
    UserClaims.read (m.relevant claims) = .ok read
      ↔ claims.get? "email" = some (.text read.email) ∧ read.email.IsScalar
        ∧ read.email.isBlank = false
        ∧ read.name = UserClaims.nameOf ((claims.get? "name").getD .null)
        ∧ UserClaims.Writable ((claims.get? m.groupsClaimName).getD .null)
        ∧ read.groups = m.groupsIn claims := by
  unfold UserClaims.read Members.required Members.withDefault
  rw [get?_relevant_email, get?_relevant_name, get?_relevant_groups]
  dsimp only
  rw [← email_of_relevant]
  constructor
  · intro made
    obtain ⟨f, groups, partly, grouped, rfl⟩ := Checked.seq_eq_ok.1 made
    obtain ⟨g, name, first, named, rfl⟩ := Checked.seq_eq_ok.1 partly
    obtain ⟨email, found, rfl⟩ := Checked.map_eq_ok.1 first
    cases named
    obtain ⟨given, scalar, notBlank⟩ := UserClaims.readEmail_eq_ok.1 found
    obtain ⟨writable, rfl⟩ := UserClaims.readGroups_eq_ok.1 grouped
    exact ⟨given, scalar, notBlank, rfl, writable, rfl⟩
  · intro told
    obtain ⟨given, scalar, notBlank, named, writable, grouped⟩ := told
    obtain ⟨email, name, groups⟩ := read
    refine Checked.seq_eq_ok.2 ⟨_, groups, ?_, UserClaims.readGroups_eq_ok.2 ⟨writable, grouped⟩, rfl⟩
    refine Checked.seq_eq_ok.2 ⟨_, name, ?_, congrArg Checked.ok named.symm, rfl⟩
    exact Checked.map_eq_ok.2 ⟨email, UserClaims.readEmail_eq_ok.2 ⟨given, scalar, notBlank⟩, rfl⟩

-- Who is let in, and as whom.
structure Admits (m : IdentityMapper) (claims : Members) (identity : UserIdentity) : Prop where
  email : claims.get? "email" = some (.text identity.email)
  scalar : identity.email.IsScalar
  notBlank : identity.email.isBlank = false
  name : identity.displayName
    = (UserClaims.nameOf ((claims.get? "name").getD .null)).getD identity.email
  writable : UserClaims.Writable ((claims.get? m.groupsClaimName).getD .null)
  groups : identity.groups = m.groupsIn claims
  administrator : identity.isAdministrator = true
    ↔ ∃ group, m.adminGroup = some group ∧ group ∈ identity.groups
  permitted : identity.isAdministrator = true ∨ m.allowGroup = none
    ∨ ∃ group, m.allowGroup = some group ∧ group ∈ identity.groups

theorem mapClaims_eq_ok : (m.mapClaims claims).2 = .ok identity ↔ m.Admits claims identity := by
  unfold mapClaims
  constructor
  · intro mapped
    cases made : UserClaims.read (m.relevant claims) with
    | refused violations =>
      rw [made] at mapped
      cases mapped
    | ok read =>
      rw [made] at mapped
      obtain ⟨given, scalar, notBlank, named, writable, grouped⟩ := read_relevant_eq_ok.1 made
      obtain ⟨permitted, rfl⟩ := decide_eq_ok.1 mapped
      refine ⟨given, scalar, notBlank, by rw [named], writable, grouped, isAdministrator_iff, ?_⟩
      rcases permitted with administrator | allowed
      · exact .inl administrator
      · exact .inr (isAllowed_iff.1 allowed)
  · intro admits
    have made : UserClaims.read (m.relevant claims)
        = .ok ⟨identity.email, UserClaims.nameOf ((claims.get? "name").getD .null), identity.groups⟩ :=
      read_relevant_eq_ok.2
        ⟨admits.email, admits.scalar, admits.notBlank, rfl, admits.writable, admits.groups⟩
    have administrator : m.isAdministrator identity.groups = identity.isAdministrator := by
      rw [Bool.eq_iff_iff, isAdministrator_iff, admits.administrator]
    rw [made]
    refine decide_eq_ok.2 ⟨?_, ?_⟩
    · rcases admits.permitted with isAdministrator | allowed
      · exact .inl (administrator.trans isAdministrator)
      · exact .inr (isAllowed_iff.2 allowed)
    · dsimp only
      rw [administrator, ← admits.name]

theorem mapClaims_eq_error {failure : Failure} (refused : (m.mapClaims claims).2 = .error failure) :
    (∃ violations, UserClaims.read (m.relevant claims) = .refused violations) ∧ failure.kind = .userInfo
      ∨ (∃ read, UserClaims.read (m.relevant claims) = .ok read ∧ m.isAdministrator read.groups = false
          ∧ m.isAllowed read.groups = false) ∧ failure.kind = .groupDenied := by
  unfold mapClaims at refused
  cases made : UserClaims.read (m.relevant claims) with
  | refused violations =>
    rw [made] at refused
    cases refused
    exact .inl ⟨⟨violations, rfl⟩, rfl⟩
  | ok read =>
    rw [made] at refused
    change (m.decide read).2 = .error failure at refused
    unfold decide at refused
    dsimp only at refused
    cases permitted : m.isAdministrator read.groups || m.isAllowed read.groups with
    | true =>
      rw [permitted, if_pos rfl] at refused
      cases refused
    | false =>
      rw [permitted, if_neg Bool.false_ne_true] at refused
      cases refused
      obtain ⟨notAdministrator, notAllowed⟩ := Bool.or_eq_false_iff.1 permitted
      exact .inr ⟨⟨read, rfl, notAdministrator, notAllowed⟩, rfl⟩

-- The claims are refused as those of no user.
def FindsUnusable (m : IdentityMapper) (claims : Members) : Prop :=
  ∃ failure, (m.mapClaims claims).2 = .error failure ∧ failure.kind = .userInfo

theorem findsUnusable_iff (writable : UserClaims.Writable ((claims.get? m.groupsClaimName).getD .null)) :
    m.FindsUnusable claims
      ↔ ¬ ∃ email, claims.get? "email" = some (.text email) ∧ email.IsScalar ∧ email.isBlank = false := by
  constructor
  · rintro ⟨failure, failed, kind⟩ ⟨email, given, scalar, notBlank⟩
    rcases mapClaims_eq_error failed with ⟨⟨violations, refused⟩, _⟩ | ⟨_, other⟩
    · have made : UserClaims.read (m.relevant claims) = .ok ⟨email, _, m.groupsIn claims⟩ :=
        read_relevant_eq_ok.2 ⟨given, scalar, notBlank, rfl, writable, rfl⟩
      cases refused.symm.trans made
    · cases kind.symm.trans other
  · intro lacks
    cases mapped : (m.mapClaims claims).2 with
    | ok identity =>
      have admits := mapClaims_eq_ok.1 mapped
      exact absurd ⟨identity.email, admits.email, admits.scalar, admits.notBlank⟩ lacks
    | error failure =>
      refine ⟨failure, mapped, ?_⟩
      rcases mapClaims_eq_error mapped with ⟨_, kind⟩ | ⟨⟨read, made, _⟩, _⟩
      · exact kind
      · obtain ⟨given, scalar, notBlank, _⟩ := read_relevant_eq_ok.1 made
        exact absurd ⟨read.email, given, scalar, notBlank⟩ lacks

section Alike

variable {R : Text → Text → Prop} {other : Members}

theorem read_relevant_alike
    (email : Checked.Alike R (UserClaims.readEmail ⟨"email", none⟩ ((claims.get? "email").getD .null))
      (UserClaims.readEmail ⟨"email", none⟩ ((other.get? "email").getD .null)))
    (groups : claims.get? m.groupsClaimName = other.get? m.groupsClaimName) :
    Checked.Alike (fun read another => R read.email another.email ∧ read.groups = another.groups)
      (UserClaims.read (m.relevant claims)) (UserClaims.read (m.relevant other)) := by
  have grouped : Checked.Alike Eq ((m.relevant claims).withDefault "groups" [] UserClaims.readGroups)
      ((m.relevant other).withDefault "groups" [] UserClaims.readGroups) := by
    unfold Members.withDefault
    rw [get?_relevant_groups, get?_relevant_groups, groups]
    exact .refl (fun _ => rfl) _
  have named : Checked.Alike (fun _ _ => True)
      ((m.relevant claims).withDefault "name" none fun _ value => .ok (UserClaims.nameOf value))
      ((m.relevant other).withDefault "name" none fun _ value => .ok (UserClaims.nameOf value)) := .ok trivial
  unfold UserClaims.read
  refine Checked.Alike.seq (Checked.Alike.seq (Checked.Alike.map ?_ email) named) grouped
  intro _ _ same _ _ _ _ _ sameGroups
  exact ⟨same, sameGroups⟩

theorem decide_alike {read another : UserClaims} (email : R read.email another.email)
    (groups : read.groups = another.groups) :
    (m.decide read).1 = (m.decide another).1
      ∧ EndAlike (fun identity other => R identity.email other.email ∧ identity.groups = other.groups
          ∧ identity.isAdministrator = other.isAdministrator) (m.decide read).2 (m.decide another).2 := by
  unfold decide
  dsimp only
  rw [groups]
  split
  · exact ⟨rfl, .done ⟨email, rfl, rfl⟩⟩
  · exact ⟨rfl, .failed _⟩

theorem mapClaims_alike_of_email
    (email : Checked.Alike R (UserClaims.readEmail ⟨"email", none⟩ ((claims.get? "email").getD .null))
      (UserClaims.readEmail ⟨"email", none⟩ ((other.get? "email").getD .null)))
    (groups : claims.get? m.groupsClaimName = other.get? m.groupsClaimName) :
    (m.mapClaims claims).1 = (m.mapClaims other).1
      ∧ EndAlike (fun identity another => R identity.email another.email ∧ identity.groups = another.groups
          ∧ identity.isAdministrator = another.isAdministrator) (m.mapClaims claims).2 (m.mapClaims other).2 := by
  unfold mapClaims
  rcases ((read_relevant_alike email groups).toExcept UserClaims.model).ends with
    ⟨report, here, there⟩ | ⟨read, another, here, there, sameEmail, sameGroups⟩
  · rw [here, there]
    exact ⟨rfl, .failed _⟩
  · rw [here, there]
    exact decide_alike sameEmail sameGroups

end Alike

end IdentityMapper

namespace Sample

def claims : Members :=
  [("email", .text "a@b.c"), ("name", .text " Al "), ("groups", .list [.text "staff", .null])]

def identity : UserIdentity := ⟨"a@b.c", "Al", ["staff"], false⟩

def mapper : IdentityMapper := ⟨some "admins", some "staff", "groups"⟩

theorem mapClaims_claims : (mapper.mapClaims claims).2 = .ok identity :=
  except_eq_ok_of_toOption (by decide)

end Sample

end OidcLogin
