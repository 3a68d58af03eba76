import OidcLogin.Json.Value

namespace OidcLogin

inductive Rule
  | missing
  | text
  | unicode
  | tooShort
  | boolType
  | boolText
  | intType
  | intText
  | intSize
  | wholeNumber
  | finiteNumber
  | floatType
  | floatText
  | positive
  | list
  | literal
  | unknownField
  | frozen
  | special (message : Text)
deriving DecidableEq

-- Where a violation is: a field, or an item of a field's list.
structure Place where
  field : Text
  item : Option Nat
deriving DecidableEq

def Place.ofRecord : Place := ⟨[], none⟩

structure Violation where
  place : Place
  rule : Rule
deriving DecidableEq

structure Report where
  model : Text
  violations : List Violation
deriving DecidableEq

def Rule.code : Rule → Text
  | .missing => "missing"
  | .text => "string_type"
  | .unicode => "string_unicode"
  | .tooShort => "string_too_short"
  | .boolType => "bool_type"
  | .boolText => "bool_parsing"
  | .intType => "int_type"
  | .intText => "int_parsing"
  | .intSize => "int_parsing_size"
  | .wholeNumber => "int_from_float"
  | .finiteNumber => "finite_number"
  | .floatType => "float_type"
  | .floatText => "float_parsing"
  | .positive => "greater_than"
  | .list => "list_type"
  | .literal => "literal_error"
  | .unknownField => "extra_forbidden"
  | .frozen => "frozen_instance"
  | .special _ => "value_error"

def Rule.message? : Rule → Option Text
  | .special message => some ("Value error, " ++ message)
  | _ => none

inductive Checked (α : Type)
  | ok (value : α)
  | refused (violations : List Violation)

namespace Checked

def map {α β : Type} (f : α → β) : Checked α → Checked β
  | .ok value => .ok (f value)
  | .refused violations => .refused violations

def both {α β : Type} : Checked (α → β) → Checked α → Checked β
  | .ok f, .ok value => .ok (f value)
  | .ok _, .refused violations => .refused violations
  | .refused violations, .ok _ => .refused violations
  | .refused first, .refused second => .refused (first ++ second)

instance : Applicative Checked where
  pure := .ok
  map := map
  seq f x := both f (x ())

def andThen {α β : Type} : Checked α → (α → Checked β) → Checked β
  | .ok value, next => next value
  | .refused violations, _ => .refused violations

def refuse {α : Type} (place : Place) (rule : Rule) : Checked α := .refused [⟨place, rule⟩]

def toExcept {α : Type} (model : Text) : Checked α → Except Report α
  | .ok value => .ok value
  | .refused violations => .error ⟨model, violations⟩

end Checked

abbrev Reader (α : Type) := Place → Json → Checked α

namespace Members

def required {α : Type} (members : Members) (name : Text) (read : Reader α) : Checked α :=
  match members.get? name with
  | none => .refuse ⟨name, none⟩ .missing
  | some value => read ⟨name, none⟩ value

def withDefault {α : Type} (members : Members) (name : Text) (default : α) (read : Reader α) :
    Checked α :=
  match members.get? name with
  | none => .ok default
  | some value => read ⟨name, none⟩ value

def onlyNames (members : Members) (names : List Text) : Checked Unit :=
  match members.filter fun (name, _) => !names.contains name with
  | [] => .ok ()
  | unknown => .refused (unknown.map fun (name, _) => ⟨⟨name, none⟩, .unknownField⟩)

end Members

end OidcLogin
