import OidcLogin.Http.Fault
import OidcLogin.Http.Message

namespace OidcLogin.Http

def checkLocation (url : RequestUrl) : Except FetchFault Unit :=
  match url.location.encode .ascii with
  | .ok _ => .ok ()
  | .error fault => .error (.unencodable fault)

def hostOf (url : RequestUrl) : Except FetchFault Text := url.hostName.mapError .hostName

namespace Redirect

def statuses : List Int := [301, 302, 303, 307, 308]

def location? (response : Response) : Option Text :=
  if statuses.contains response.status then response.headers.get? "Location" else none

-- A place with a scheme and without a host is at the host of the request.
def withHost (origin place : RequestUrl) : Except FetchFault RequestUrl :=
  if place.scheme.isEmpty then .ok place
  else
    match hostOf place with
    | .error fault => .error fault
    | .ok host =>
      if !host.isEmpty then .ok place
      else
        match hostOf origin with
        | .error fault => .error fault
        | .ok host => (place.withHost host).mapError .url

def resolved (origin place : RequestUrl) : Except FetchFault RequestUrl :=
  if place.isAbsolute then .ok place
  else
    match Url.resolve origin.toText place.toText with
    | .error fault => .error (.unsplittable fault)
    | .ok t => (RequestUrl.read t).mapError .url

def withFragment (origin place : RequestUrl) : Except FetchFault RequestUrl :=
  if origin.fragmentText.isEmpty || !place.fragmentText.isEmpty then .ok place
  else (place.withFragment origin.fragmentText).mapError .url

def target (origin : RequestUrl) (location : Text) : Except FetchFault RequestUrl := do
  let place ← (RequestUrl.read location).mapError .location
  let place ← withHost origin place
  let place ← resolved origin place
  withFragment origin place

def ports : List (Text × Int) := [("http", 80), ("https", 443)]

def portOf (url : RequestUrl) : Option Int := url.port.or (ports.lookup url.scheme)

-- Scheme, host and port are the same.  The hosts must be known in any case.
def isSameOrigin (origin place : RequestUrl) : Except FetchFault Bool :=
  if origin.scheme = place.scheme then do
    let there ← hostOf place
    let here ← hostOf origin
    return here = there && portOf origin = portOf place
  else do
    let _ ← hostOf origin
    let _ ← hostOf place
    return false

end Redirect

def checkRedirect (origin : RequestUrl) (response : Response) : Except FetchFault Unit :=
  match Redirect.location? response with
  | none => .ok ()
  | some location =>
    match Redirect.target origin location with
    | .error fault => .error fault
    | .ok place =>
      match Redirect.isSameOrigin origin place with
      | .error fault => .error fault
      | .ok same => if same then .ok () else checkLocation place

end OidcLogin.Http
