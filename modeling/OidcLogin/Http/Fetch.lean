import OidcLogin.Http.Redirect
import OidcLogin.Text.Base64
import OidcLogin.Text.Case

namespace OidcLogin.Http

def defaultHeaders : Headers := [("accept", "*/*")]

def checkHeaders : Headers → Except EncodeFault Unit
  | [] => .ok ()
  | (name, value) :: rest =>
    match name.encode .ascii with
    | .error fault => .error fault
    | .ok _ =>
      match value.encode .ascii with
      | .error fault => .error fault
      | .ok _ => checkHeaders rest

def basicAuthorization (credentials : Bytes) : Text := "Basic " ++ Base64.encode credentials

-- The credentials that a URL carries take the place of any authorization given.
def authorize (url : RequestUrl) (headers : Headers) : Except EncodeFault Headers :=
  match url.credentials? with
  | none => .ok headers
  | some (name, password) =>
    match name.encode .utf8, password.encode .utf8 with
    | .ok name, .ok password =>
      .ok (headers.set "Authorization" (basicAuthorization (name ++ 0x3A :: password)))
    | .error fault, _ => .error fault
    | _, .error fault => .error fault

-- A request without a Host header gets one from its URL, if that has a host whose letters are known.
def checkHost (url : RequestUrl) (headers : Headers) : Except FetchFault Unit :=
  if headers.has "Host" then .ok ()
  else
    match url.hostName with
    | .error fault => .error (.hostName fault)
    | .ok host => if host.isEmpty then .ok () else checkLocation url

def bare (method url : Text) : Except FetchFault Request :=
  match RequestUrl.read url with
  | .error fault => .error (.url fault)
  | .ok target =>
    match checkHost target [] with
    | .error fault => .error fault
    | .ok () =>
      let headers : Headers := if target.host.isEmpty then [] else [("Host", target.location)]
      .ok ⟨method.capitals, target, headers, []⟩

def mergeHeaders (headers : Headers) : Headers :=
  defaultHeaders.filter (fun (name, _) => !headers.has name) ++ headers

def prepare (method url : Text) (headers : Headers) (content : Text) : Except FetchFault Request :=
  match RequestUrl.forRequest url with
  | .error fault => .error (.url fault)
  | .ok target =>
    match checkHeaders headers with
    | .error fault => .error (.unencodable fault)
    | .ok () =>
      match content.encode .utf8 with
      | .error fault => .error (.unencodable fault)
      | .ok body =>
        match checkHost target headers with
        | .error fault => .error fault
        | .ok () =>
          match authorize target (mergeHeaders headers) with
          | .error fault => .error (.unencodable fault)
          | .ok headers => .ok ⟨method.capitals, target, headers, body⟩

def maxResponseBytes : Nat := 1000000

-- The chunks joined, or the chunks left unread when the size went over the limit.  `size` and `read`
-- are what was read before, the last chunk first.
def readBounded (limit size : Nat) (read : List Bytes) : List Bytes → Except (List Bytes) Bytes
  | [] => .ok read.reverse.flatten
  | chunk :: rest =>
    if limit < size + chunk.length then .error rest
    else readBounded limit (size + chunk.length) (chunk :: read) rest

-- The length that a response declares counts if it is written in digit characters only.
def checkDeclaredLength (url : Text) (headers : Headers) : Except FetchFault Unit :=
  match headers.get? "Content-Length" with
  | none => .ok ()
  | some length =>
    if length.isEmpty || !length.all CodePoint.isDigitCharacter then .ok ()
    else
      match length.toWhole? with
      | .error .malformed => .error (.lengthNotDecimal length)
      | .error (.tooManyDigits count) => .error (.lengthTooLong count)
      | .ok size => if (maxResponseBytes : Int) < size then .error (.oversized url) else .ok ()

def decodeBody (response : Response) (content : Bytes) : Except FetchFault Json :=
  match Json.ofBytes response.levels content with
  | .ok value => .ok value
  | .error (.tooDeep inList) => .error (.document (.tooDeep inList))
  | .error fault => if response.isSuccess then .error (.document fault) else .ok .null

def checkAbsolute (url : RequestUrl) : Except FetchFault Unit :=
  if url.scheme.isEmpty then .error (.notAbsolute url.toText)
  else
    match Url.split url.toText with
    | .ok _ => .ok ()
    | .error fault => .error (.unsplittable fault)

-- The response and its value.  `url` is the URL as the caller gave it.
def receive (url : Text) (request : Request) : Answer → Except FetchFault (Response × Json)
  | .raised r => .error (.raised r)
  | .response response => do
    checkAbsolute request.url
    checkRedirect request.url response
    checkDeclaredLength url response.headers
    match readBounded maxResponseBytes 0 [] response.chunks with
    | .error _ => .error (.oversized url)
    | .ok content => (decodeBody response content).map (response, ·)

end OidcLogin.Http
