import OidcLogin.Client.Effect
import OidcLogin.Provider.Config
import OidcLogin.Token.Response

namespace OidcLogin.TokenExchange

def grantType : Text := "authorization_code"

-- The pairs of the form; an empty redirect address or code is left out.
def formPairs (code : Text) (redirectUri : Option Text) : Form.Pairs :=
  let redirect : Form.Pairs :=
    match redirectUri with
    | none | some [] => []
    | some uri => [("redirect_uri", uri)]
  let codes : Form.Pairs := if code.isEmpty then [] else [("code", code)]
  ("grant_type", grantType) :: (redirect ++ codes)

def credentials (config : ProviderConfig) : Except EncodeFault Bytes :=
  Text.encode .latin1 (config.clientId ++ CodePoint.ofChar ':' :: config.clientSecret)

def formHeaders (authorization : Text) : Http.Headers :=
  [("Accept", "application/json"),
   ("Content-Type", "application/x-www-form-urlencoded;charset=UTF-8"),
   ("Authorization", authorization)]

def descriptionOf (payload : Members) : Option Text :=
  match payload.get? "error_description" with
  | some value => if value.isTruthy then some value.display else none
  | none => none

-- How a refusal is told: the error that the answer names, else its status.
def refusalText (response : Http.Response) (payload : Members) : Text :=
  match payload.get? "error" with
  | some error => error.display
  | none => "HTTP " ++ Text.ofInt response.status

def ofPayload (payload : Members) : Except TokenFault TokenResponse :=
  match (TokenResponse.read payload).toExcept TokenResponse.model with
  | .error report => .error (.invalid report)
  | .ok token => if token.isBearer then .ok token else .error (.otherType token.tokenType)

def ofResponse (response : Http.Response) (document : Json) :
    List Note × Except TokenFault TokenResponse :=
  let payload : Members := match document with | .object members => members | _ => []
  if payload.has "error" || !response.isSuccess then
    ([.warning ("Token endpoint rejected the authorization code: " ++ refusalText response payload)],
     .error (.rejected (descriptionOf payload)))
  else
    match document with
    | .object members => ([], ofPayload members)
    | _ => ([], .error .notObject)

-- What a fetch gives.  A fault that is neither of the network nor of a value is passed on.
def ofFetch (endpoint : Text) :
    Except Http.FetchFault (Http.Response × Json) → List Note × Except Failure TokenResponse
  | .error fault =>
    if fault.isNetwork then
      ([.error ("Token request to " ++ endpoint ++ " failed: " ++ fault.message)],
       .error (.token (.unreachable fault)))
    else if fault.isValue then ([], .error (.token (.unreadable fault)))
    else ([], .error (.fetch fault))
  | .ok (response, document) =>
    match ofResponse response document with
    | (notes, .ok token) => (notes, .ok token)
    | (notes, .error fault) => (notes, .error (.token fault))

def prepare (config : ProviderConfig) (code redirectUri : Option Text) :
    Except Failure (Text × Text) :=
  match code with
  | none => .error (.token .noCode)
  | some code =>
    match Form.encode (formPairs code redirectUri) with
    | .error fault => .error (.unencodable fault)
    | .ok body =>
      match credentials config with
      | .error fault => .error (.unencodable fault)
      | .ok octets => .ok (body, Http.basicAuthorization octets)

def exchange (config : ProviderConfig) (client : HttpClient) (code redirectUri : Option Text) :
    NetProgram (Except Failure TokenResponse) :=
  match prepare config code redirectUri with
  | .error failure => .done (.error failure)
  | .ok (body, authorization) => do
    let fetched ← NetProgram.fetch client "POST" config.tokenEndpoint
      (formHeaders authorization) body
    let (notes, result) := ofFetch config.tokenEndpoint fetched
    NetProgram.noteAll notes
    return result

end OidcLogin.TokenExchange
