import OidcLogin.Client.Effect
import OidcLogin.Provider.Metadata

namespace OidcLogin.Discovery

def wellKnownPath : Text := "/.well-known/openid-configuration"

def withoutSlashes (t : Text) : Text := t.trimEnd (· = CodePoint.ofChar '/')

def url (issuer : Text) : Text := withoutSlashes issuer ++ wellKnownPath

def ofResponse (target : Text) (response : Http.Response) (document : Json) :
    Except DiscoveryFault ProviderMetadata :=
  if !response.isSuccess then .error (.status target response.status)
  else
    match document with
    | .object members =>
      match (ProviderMetadata.read members).toExcept ProviderMetadata.model with
      | .ok metadata => .ok metadata
      | .error report => .error (.invalid target report)
    | _ => .error (.notObject target)

def ofFetch (issuer : Text) :
    Except Http.FetchFault (Http.Response × Json) → Except Failure ProviderMetadata
  | .error fault =>
    if fault.isNetwork then .error (.discovery (.unreachable (url issuer) fault))
    else if fault.isValue then .error (.discovery (.unreadable (url issuer) fault))
    else .error (.fetch fault)
  | .ok (response, document) =>
    match ofResponse (url issuer) response document with
    | .error fault => .error (.discovery fault)
    | .ok metadata =>
      if withoutSlashes metadata.issuer = withoutSlashes issuer then .ok metadata
      else .error (.discovery (.otherIssuer (url issuer) metadata.issuer issuer))

def spanName : Text := "openid.discovery"

-- The events before a failure leaves the span: a failure of the network is recorded by itself.
def failureEvents : Failure → List Span.Event
  | .discovery (.unreachable _ fault) => [.failure fault.kind, .status .error]
  | .discovery _ => [.status .error]
  | _ => []

def discover (issuer : Text) (client : HttpClient) :
    NetProgram (Except Failure ProviderMetadata) := do
  NetProgram.spanEvents
    [.start spanName, .attribute "openid.discovery_url" (.text (url issuer))]
  let fetched ← NetProgram.fetch client "GET" (url issuer) [("Accept", "application/json")] []
  match ofFetch issuer fetched with
  | .error failure =>
    NetProgram.spanEvents (failureEvents failure ++ Span.leave failure.kind)
    return .error failure
  | .ok metadata =>
    NetProgram.note (.info ("Resolved OIDC endpoints for issuer " ++ issuer))
    NetProgram.note (.span .finish)
    return .ok metadata

end OidcLogin.Discovery
