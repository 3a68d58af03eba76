import OidcLogin.Client.Effect
import OidcLogin.Provider.Config

namespace OidcLogin.UserInfo

def headers (accessToken : Text) : Http.Headers :=
  [("Accept", "application/json"), ("Authorization", "Bearer " ++ accessToken)]

def ofResponse (response : Http.Response) (document : Json) :
    List Note × Except UserInfoFault Members :=
  if !response.isSuccess then
    ([.warning ("User info endpoint returned HTTP " ++ Text.ofInt response.status)],
     .error .rejected)
  else
    match document with
    | .object claims => ([], .ok claims)
    | _ => ([], .error .notObject)

def ofFetch (endpoint : Text) :
    Except Http.FetchFault (Http.Response × Json) → List Note × Except Failure Members
  | .error fault =>
    if fault.isNetwork then
      ([.error ("User info request to " ++ endpoint ++ " failed: " ++ fault.message)],
       .error (.userInfo (.unreachable fault)))
    else if fault.isValue then ([], .error (.userInfo (.unreadable fault)))
    else ([], .error (.fetch fault))
  | .ok (response, document) =>
    match ofResponse response document with
    | (notes, .ok claims) => (notes, .ok claims)
    | (notes, .error fault) => (notes, .error (.userInfo fault))

def fetch (config : ProviderConfig) (client : HttpClient) (accessToken : Text) :
    NetProgram (Except Failure Members) := do
  let fetched ← NetProgram.fetch client "GET" config.userinfoEndpoint (headers accessToken) []
  let (notes, result) := ofFetch config.userinfoEndpoint fetched
  NetProgram.noteAll notes
  return result

end OidcLogin.UserInfo
