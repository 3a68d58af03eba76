import OidcLogin.Proofs.Client.Requests
import OidcLogin.Proofs.Identity.Mapping
import OidcLogin.Proofs.Json.Documents
import OidcLogin.Proofs.Json.Writable

namespace OidcLogin

namespace Json

def IsDecoded (value : Json) : Prop := ∃ levels bytes, ofBytes levels bytes = .ok value

theorem IsDecoded.isWritable {value : Json} (decoded : IsDecoded value) : value.isWritable = true := by
  obtain ⟨_, _, read⟩ := decoded
  exact ofBytes_isWritable read

end Json

namespace UserClaims

-- Why the email claim is of no use.
inductive NoEmail : Option Json → Prop
  | missing : NoEmail none
  | notText {given : Json} (other : ∀ t, given ≠ .text t) : NoEmail (some given)
  | blank {t : Text} (blank : t.isBlank = true) : NoEmail (some (.text t))
  | notUnicode {t : Text} (surrogate : ¬ t.IsScalar) : NoEmail (some (.text t))

theorem not_noEmail_iff {given : Option Json} :
    ¬ NoEmail given ↔ ∃ t, given = some (.text t) ∧ t.IsScalar ∧ t.isBlank = false := by
  constructor
  · intro usable
    cases given with
    | none => exact absurd .missing usable
    | some claim =>
      cases claim with
      | text t =>
        refine ⟨t, rfl, ?_, ?_⟩
        · exact Classical.byContradiction fun surrogate => usable (.notUnicode surrogate)
        · exact Bool.eq_false_iff.2 fun blank => usable (.blank blank)
      | null | bool _ | int _ | float _ | list _ | object _ => exact absurd (.notText nofun) usable
  · rintro ⟨t, rfl, scalar, notBlank⟩ noEmail
    cases noEmail with
    | notText other => exact other t rfl
    | blank blank => exact Bool.false_ne_true (notBlank.symm.trans blank)
    | notUnicode surrogate => exact surrogate scalar

end UserClaims

namespace IdentityMapper

open UserClaims (NoEmail)

variable {m : IdentityMapper} {claims : Members} {name : Text} {value : Json}

theorem writable_of_object (written : (Json.object claims).isWritable = true) (name : Text) :
    UserClaims.Writable ((claims.get? name).getD .null) := by
  intro items same
  cases found : claims.get? name with
  | none =>
    rw [found] at same
    cases same
  | some claim =>
    rw [found, Option.getD_some] at same
    subst same
    exact Json.isWritable_object.1 written _ (Members.mem_of_get? found)

theorem findsUnusable_iff_noEmail (written : (Json.object claims).isWritable = true) :
    m.FindsUnusable claims ↔ NoEmail (claims.get? "email") := by
  rw [findsUnusable_iff (writable_of_object written m.groupsClaimName), ← UserClaims.not_noEmail_iff, Classical.not_not]

theorem isWritable_put (written : (Json.object claims).isWritable = true) (other : value.isWritable = true) :
    (Json.object (claims.put name value)).isWritable = true := by
  refine Json.isWritable_object.2 fun pair member => ?_
  rcases Members.mem_put member with old | new
  · exact Json.isWritable_object.1 written pair old
  · rw [new]
    exact other

theorem findsUnusable_put (written : (Json.object claims).isWritable = true) (other : value.isWritable = true)
    (different : ("email" : Text) ≠ name) :
    m.FindsUnusable (claims.put name value) ↔ m.FindsUnusable claims := by
  rw [findsUnusable_iff_noEmail (isWritable_put written other), findsUnusable_iff_noEmail written,
    Members.get?_put_of_ne claims value different]

theorem finds_only_email_unusable (decoded : Json.IsDecoded (.object claims)) :
    (m.FindsUnusable claims ↔ NoEmail (claims.get? "email"))
      ∧ (¬ m.FindsUnusable claims →
          (∀ other : Members, Json.IsDecoded (.object other) → other.get? "email" = claims.get? "email" →
            ¬ m.FindsUnusable other)
          ∧ (∀ value, Json.IsDecoded value → ¬ m.FindsUnusable (claims.put "name" value))
          ∧ ∀ items extended, claims.get? m.groupsClaimName = some (.list items) →
              (∀ item ∈ extended, item ∈ items ∨ Json.IsDecoded item) →
              ¬ m.FindsUnusable (claims.put m.groupsClaimName (.list extended))) := by
  have written := decoded.isWritable
  refine ⟨findsUnusable_iff_noEmail written, fun usable => ⟨?other, ?name, ?groups⟩⟩
  case other =>
    intro other decodedOther same
    rw [findsUnusable_iff_noEmail decodedOther.isWritable, same, ← findsUnusable_iff_noEmail written]
    exact usable
  case name =>
    intro value decodedValue
    rwa [findsUnusable_put written decodedValue.isWritable (by decide)]
  case groups =>
    intro items extended listed added
    have itemsWritten : (Json.list items).isWritable = true :=
      Json.isWritable_object.1 written _ (Members.mem_of_get? listed)
    have extendedWritten : (Json.list extended).isWritable = true := by
      refine Json.isWritable_list.2 fun item member => ?_
      rcases added item member with old | new
      · exact Json.isWritable_list.1 itemsWritten item old
      · exact new.isWritable
    -- a claim that is a list is not the email of a user that can be read
    have different : ("email" : Text) ≠ m.groupsClaimName := by
      intro same
      rw [findsUnusable_iff_noEmail written, UserClaims.not_noEmail_iff] at usable
      obtain ⟨t, email, _⟩ := usable
      rw [same, listed] at email
      cases email
    rwa [findsUnusable_put written extendedWritten different]

def listsGroups (claims : Members) : Bool :=
  match claims.get? "groups" with
  | some (.list _) => true
  | _ => false

theorem listsGroups_iff : listsGroups claims = true ↔ ∃ items, claims.get? "groups" = some (.list items) := by
  unfold listsGroups
  split
  · rename_i items found
    exact iff_of_true rfl ⟨items, found⟩
  · rename_i other
    exact iff_of_false Bool.false_ne_true fun ⟨items, found⟩ => other items found

theorem finds_only_email_unusable_of_staff :
    ∃ (claims : Members) (items : List Json) (t : Text), Json.IsDecoded (.object claims) ∧ Json.IsDecoded (.text t)
      ∧ ¬ t.IsScalar ∧ (Sample.mapper.mapClaims claims).2 = .ok Sample.identity
      ∧ claims.get? "groups" = some (.list items) ∧ ¬ Sample.mapper.FindsUnusable (claims.put "name" (.text t))
      ∧ ¬ Sample.mapper.FindsUnusable (claims.put "groups" (.list (.text t :: items))) := by
  let accepts (claims : Members) : Bool :=
    (Sample.mapper.mapClaims claims).2.toOption = some Sample.identity && listsGroups claims
  obtain ⟨claims, document, accepted⟩ : ∃ claims,
      Json.ofBytes Sample.claimsResponse.levels Sample.claimsResponse.chunks.flatten = .ok (.object claims) ∧ accepts claims = true :=
    Json.exists_object (by decide +kernel)
  obtain ⟨t, surrogate, notScalar⟩ : ∃ t,
      Json.ofBytes Sample.claimsResponse.levels (Sample.octets "\"\\ud800\"") = .ok (.text t) ∧ t.any CodePoint.isSurrogate = true :=
    Json.exists_text (by decide +kernel)
  obtain ⟨mapped, listed⟩ := Bool.and_eq_true_iff.1 accepted
  have admitted : (Sample.mapper.mapClaims claims).2 = .ok Sample.identity :=
    except_eq_ok_of_toOption (of_decide_eq_true mapped)
  have usable : ¬ Sample.mapper.FindsUnusable claims := by
    rintro ⟨failure, failed, _⟩
    cases admitted.symm.trans failed
  obtain ⟨_, kept⟩ := finds_only_email_unusable (m := Sample.mapper) ⟨_, _, document⟩
  obtain ⟨_, named, grouped⟩ := kept usable
  obtain ⟨items, found⟩ := listsGroups_iff.1 listed
  refine ⟨claims, items, t, ⟨_, _, document⟩, ⟨_, _, surrogate⟩, ?_, admitted, found, named _ ⟨_, _, surrogate⟩,
    grouped items _ found ?_⟩
  · intro scalar
    exact Bool.false_ne_true ((Text.any_isSurrogate_eq_false.2 scalar).symm.trans notScalar)
  · rintro item (_ | ⟨_, old⟩)
    · exact .inr ⟨_, _, surrogate⟩
    · exact .inl old

end IdentityMapper

end OidcLogin
