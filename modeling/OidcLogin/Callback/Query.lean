import OidcLogin.Failure.Basic

namespace OidcLogin.Callback

def deniedText? (query : Text) : Option Text :=
  let pairs := Form.decode true query
  match Form.last? pairs "error" with
  | none => none
  | some error =>
    match Form.last? pairs "error_description" with
    | none | some [] => some error
    | some description => some description

-- The pairs of the query part of an address that is nothing but a query.
def answerPairs (query : Text) : Except Url.SplitFault Form.Pairs :=
  (Url.split (CodePoint.ofChar '?' :: query)).map fun parts => Form.decode false parts.query

def isOtherState (expected : Option Text) (pairs : Form.Pairs) : Bool :=
  match expected with
  | none | some [] => false
  | some state => Form.last? pairs "state" != some state

def parse (query : Text) (expected : Option Text) : Except Failure Text :=
  match deniedText? query with
  | some text => .error (.callback (.denied text))
  | none =>
    match answerPairs query with
    | .error fault => .error (.unsplittable fault)
    | .ok pairs =>
      match Form.last? pairs "code" with
      | none => .error (.callback .noCode)
      | some code =>
        if isOtherState expected pairs then .error (.callback .otherState)
        else if code.isEmpty then .error (.callback .noCode)
        else .ok code

end OidcLogin.Callback
