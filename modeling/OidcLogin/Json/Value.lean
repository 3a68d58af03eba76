import OidcLogin.Number.Binary64
import OidcLogin.Text.Basic

namespace OidcLogin

inductive Json
  | null
  | bool (value : Bool)
  | int (value : Int)
  | float (value : Binary64)
  | text (value : Text)
  | list (items : List Json)
  | object (members : List (Text × Json))

abbrev Members := List (Text × Json)

namespace Members

def get? (members : Members) (name : Text) : Option Json := members.lookup name

def has (members : Members) (name : Text) : Bool := members.any (·.1 = name)

def put : Members → Text → Json → Members
  | [], name, value => [(name, value)]
  | (other, old) :: rest, name, value =>
    if other = name then (other, value) :: rest else (other, old) :: put rest name value

-- Of the values of a name the last one counts; it stands where the name came first.
def ofPairs (pairs : List (Text × Json)) : Members :=
  pairs.foldl (fun members (name, value) => put members name value) []

theorem get?_put_of_ne (members : Members) {name other : Text} (value : Json)
    (different : other ≠ name) : (members.put name value).get? other = members.get? other := by
  have unequal : (other == name) = false := by simp [different]
  induction members with
  | nil => simp [put, get?, List.lookup_cons, unequal]
  | cons head rest ih =>
    obtain ⟨first, old⟩ := head
    by_cases same : first = name
    · subst same
      simp [put, get?, List.lookup_cons, unequal]
    · cases found : other == first
      · simpa [put, same, get?, List.lookup_cons, found] using ih
      · simp [put, same, get?, List.lookup_cons, found]

end Members

end OidcLogin
