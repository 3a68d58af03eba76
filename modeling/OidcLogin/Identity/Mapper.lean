import OidcLogin.Failure.Basic
import OidcLogin.Identity.Basic
import OidcLogin.Telemetry.Basic

namespace OidcLogin

structure IdentityMapper where
  adminGroup : Option Text
  allowGroup : Option Text
  groupsClaimName : Text
deriving DecidableEq

namespace IdentityMapper

-- The three claims that count, under the names of the model; an absent claim is null.
def relevant (m : IdentityMapper) (claims : Members) : Members :=
  [("email", (claims.get? "email").getD .null), ("name", (claims.get? "name").getD .null),
   ("groups", (claims.get? m.groupsClaimName).getD .null)]

def isAdministrator (m : IdentityMapper) (groups : List Text) : Bool :=
  match m.adminGroup with
  | none => false
  | some group => groups.contains group

def isAllowed (m : IdentityMapper) (groups : List Text) : Bool :=
  match m.allowGroup with
  | none => true
  | some group => groups.contains group

def decide (m : IdentityMapper) (claims : UserClaims) :
    List Note × Except Failure UserIdentity :=
  let administrator := m.isAdministrator claims.groups
  if administrator || m.isAllowed claims.groups then
    ([.debug ("Mapped OpenID identity (administrator=" ++ Json.constant administrator ++ ")")],
     .ok ⟨claims.email, claims.name.getD claims.email, claims.groups, administrator⟩)
  else
    ([.warning ("OpenID login denied: none of " ++ Text.ofNat claims.groups.length
        ++ " groups permit access")],
     .error .groupsDenied)

def mapClaims (m : IdentityMapper) (claims : Members) :
    List Note × Except Failure UserIdentity :=
  match (UserClaims.read (m.relevant claims)).toExcept UserClaims.model with
  | .error report => ([], .error (.userInfo (.noEmail report)))
  | .ok claims => m.decide claims

end IdentityMapper

end OidcLogin
