import OidcLogin.Record.Shown
import OidcLogin.Validation.Scalar

namespace OidcLogin

structure UserIdentity where
  email : Text
  displayName : Text
  groups : List Text
  isAdministrator : Bool
deriving DecidableEq

namespace UserIdentity

def model : Text := "UserIdentity"

def fieldNames : List Text := ["email", "display_name", "groups", "is_administrator"]

def make (email displayName : Text) (groups : List Text) (isAdministrator : Bool) (_ : Unit) :
    UserIdentity :=
  ⟨email, displayName, groups, isAdministrator⟩

def read (members : Members) : Checked UserIdentity :=
  make
    <$> members.required "email" Reader.nonEmptyText
    <*> members.required "display_name" Reader.text
    <*> members.withDefault "groups" [] (.list Reader.text)
    <*> members.withDefault "is_administrator" false Reader.bool
    <*> members.onlyNames fieldNames

def shown (u : UserIdentity) : ShownFields :=
  [("email", .text u.email), ("display_name", .text u.displayName), ("groups", .texts u.groups),
   ("is_administrator", .bool u.isAdministrator)]

def redacted : Shown := .text "<REDACTED>"

def repr (u : UserIdentity) : Text :=
  ShownFields.repr model
    [("email", redacted), ("display_name", redacted), ("groups", .texts u.groups),
     ("is_administrator", .bool u.isAdministrator)]

def toRecord (u : UserIdentity) : Record := .custom model true u.shown u.repr

end UserIdentity

structure UserClaims where
  email : Text
  name : Option Text
  groups : List Text
deriving DecidableEq

namespace UserClaims

def model : Text := "RawUserInfoClaims"

def readEmail : Reader Text := fun place value =>
  (Reader.nonEmptyText place value).andThen fun t =>
    if t.isBlank then .refuse place (.special "email must not be blank") else .ok t

-- The trimmed name; whatever is not a text with something in it is no name.
def nameOf : Json → Option Text
  | .text t => t.trimmed?
  | _ => none

-- The groups of a claim: a text is one group, each item of a list is one by its text, and nothing
-- else is a group.
def groupsOf : Json → List Text
  | .text t => [t]
  | .list items => items.filterMap fun item =>
    match item with
    | .null => none
    | item => some item.display
  | _ => []

-- Groups are texts, so the only items that cannot be read are whole numbers too long to be written.
def readGroups : Reader (List Text) := fun place value =>
  match value with
  | .list items =>
    if Json.allWritable items then .ok (groupsOf value) else .refuse place (.special Text.overlongMessage)
  | value => .ok (groupsOf value)

def read (members : Members) : Checked UserClaims :=
  mk
    <$> members.required "email" readEmail
    <*> members.withDefault "name" none (fun _ value => .ok (nameOf value))
    <*> members.withDefault "groups" [] readGroups

def shown (c : UserClaims) : ShownFields :=
  [("email", .text c.email), ("name", .optionalText c.name), ("groups", .texts c.groups)]

def toRecord (c : UserClaims) : Record := .plain model false c.shown

end UserClaims

end OidcLogin
