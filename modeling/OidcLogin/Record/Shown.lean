import OidcLogin.Json.Display
import OidcLogin.Validation.Checked

namespace OidcLogin

inductive Shown
  | plain (value : Json)
  | secret (t : Text)

namespace Shown

def stars : Text := "**********"

def repr : Shown → Text
  | .plain value => value.repr
  | .secret t => "SecretStr(" ++ Text.quoted (if t.isEmpty then [] else stars) ++ ")"

def text (t : Text) : Shown := .plain (.text t)
def optionalText (t : Option Text) : Shown := .plain ((t.map Json.text).getD .null)
def optionalSecret (t : Option Text) : Shown := (t.map Shown.secret).getD (.plain .null)
def texts (ts : List Text) : Shown := .plain (.list (ts.map Json.text))
def bool (b : Bool) : Shown := .plain (.bool b)

end Shown

abbrev ShownFields := List (Text × Shown)

namespace ShownFields

def items (fields : ShownFields) : List Text :=
  fields.map fun (name, value) => name ++ CodePoint.ofChar '=' :: value.repr

def repr (model : Text) (fields : ShownFields) : Text :=
  model ++ "(" ++ Text.join ", " fields.items ++ ")"

def display (fields : ShownFields) : Text := Text.join " " fields.items

def get? (fields : ShownFields) (name : Text) : Option Shown := List.lookup name fields

def replace (fields : ShownFields) (name : Text) (value : Json) : ShownFields :=
  fields.map fun (other, old) => (other, if other = name then .plain value else old)

end ShownFields

structure Record where
  model : Text
  frozen : Bool
  fields : ShownFields
  repr : Text
  display : Text

inductive AssignFault
  | frozen (report : Report)
  | unknownField (model name : Text)
deriving DecidableEq

def AssignFault.message : AssignFault → Text
  | .frozen _ => []
  | .unknownField model name => "\"" ++ model ++ "\" object has no field \"" ++ name ++ "\""

namespace Record

def plain (model : Text) (frozen : Bool) (fields : ShownFields) : Record :=
  ⟨model, frozen, fields, fields.repr model, fields.display⟩

def custom (model : Text) (frozen : Bool) (fields : ShownFields) (shown : Text) : Record :=
  ⟨model, frozen, fields, shown, shown⟩

-- A frozen record refuses every name; any other takes any value for a field that it has.
def assign (r : Record) (name : Text) (value : Json) : Except AssignFault Record :=
  if r.frozen then .error (.frozen ⟨r.model, [⟨⟨name, none⟩, .frozen⟩]⟩)
  else if (r.fields.get? name).isSome then .ok { r with fields := r.fields.replace name value }
  else .error (.unknownField r.model name)

end Record

end OidcLogin
