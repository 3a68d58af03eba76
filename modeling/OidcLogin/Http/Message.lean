import OidcLogin.Failure.Kind
import OidcLogin.Url.Request

namespace OidcLogin.Http

abbrev Headers := List (Text × Text)

namespace Headers

def get? (headers : Headers) (name : Text) : Option Text :=
  match headers.filter fun (other, _) => other.lower = name.lower with
  | [] => none
  | found => some (Text.join ", " (found.map (·.2)))

def set (headers : Headers) (name value : Text) : Headers :=
  headers.filter (fun (other, _) => other.lower != name.lower) ++ [(name, value)]

def has (headers : Headers) (name : Text) : Bool := (headers.get? name).isSome

end Headers

structure Request where
  method : Text
  url : RequestUrl
  headers : Headers
  body : Bytes
deriving DecidableEq

-- An answer as it comes over the network.  Its body is cut in chunks, with any encoding of its content already undone.
structure Message where
  status : Int
  headers : Headers
  chunks : List Bytes
deriving DecidableEq

-- What comes of a request on the network.  A body whose encoding cannot be undone is raised.
inductive Outcome
  | response (m : Message)
  | raised (r : Raised)
deriving DecidableEq

-- An answer where it is read: so many lists and objects may stand in one another there before the reader gives up.
structure Response extends Message where
  levels : Nat
deriving DecidableEq

def Response.isSuccess (r : Response) : Bool := 200 ≤ r.status && r.status ≤ 299

inductive Answer
  | response (r : Response)
  | raised (r : Raised)
deriving DecidableEq

def Outcome.readAt (levels : Nat) : Outcome → Answer
  | .response m => .response ⟨m, levels⟩
  | .raised r => .raised r

end OidcLogin.Http
