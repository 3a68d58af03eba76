import OidcLogin.Json.Value
import OidcLogin.Number.Display
import OidcLogin.Text.Digit
import OidcLogin.Text.Quoted

namespace OidcLogin.Json

def constant : Bool → Text
  | true => "True"
  | false => "False"

mutual
def repr : Json → Text
  | .null => "None"
  | .bool b => constant b
  | .int n => Text.ofInt n
  | .float x => x.toText
  | .text t => t.quoted
  | .list items => "[" ++ Text.join ", " (reprItems [] items) ++ "]"
  | .object members => "\x7b" ++ Text.join ", " (reprMembers [] members) ++ "\x7d"

def reprItems (before : List Text) : List Json → List Text
  | [] => before.reverse
  | item :: rest => reprItems (repr item :: before) rest

def reprMembers (before : List Text) : List (Text × Json) → List Text
  | [] => before.reverse
  | (name, value) :: rest => reprMembers ((name.quoted ++ ": " ++ repr value) :: before) rest
end

def display : Json → Text
  | .text t => t
  | value => repr value

mutual
-- Every whole number in the value has few enough digits to be written.
def isWritable : Json → Bool
  | .int n => n.natAbs < Nat.pow 10 Text.maxDigits
  | .list items => allWritable items
  | .object members => membersWritable members
  | _ => true

def allWritable : List Json → Bool
  | [] => true
  | item :: rest => isWritable item && allWritable rest

def membersWritable : List (Text × Json) → Bool
  | [] => true
  | (_, value) :: rest => isWritable value && membersWritable rest
end

def isTruthy : Json → Bool
  | .null => false
  | .bool b => b
  | .int n => n != 0
  | .float (.finite _ mantissa _) => mantissa != 0
  | .float _ => true
  | .text t => !t.isEmpty
  | .list items => !items.isEmpty
  | .object members => !members.isEmpty

end OidcLogin.Json
