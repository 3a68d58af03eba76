import OidcLogin.HostName.Basic
import OidcLogin.Address.Basic
import OidcLogin.Url.Form
import OidcLogin.Text.Digit

namespace OidcLogin

inductive UrlPart
  | scheme
  | authority
  | path
  | query
  | fragment
  | host
deriving DecidableEq

def UrlPart.name : UrlPart → Text
  | .scheme => "scheme"
  | .authority => "authority"
  | .path => "path"
  | .query => "query"
  | .fragment => "fragment"
  | .host => "host"

inductive RequestUrlFault
  | tooLong
  | control (c : CodePoint) (position : Nat)
  | partTooLong (part : UrlPart)
  | partControl (part : UrlPart) (c : CodePoint) (position : Nat)
  | port (t : Text)
  | versionFour (host : Text)
  | versionSix (host : Text)
  | hostName (host : Text)
  | pathWithoutSlash
  | pathWithTwoSlashes
  | pathWithColon
  | unencodable (fault : EncodeFault)
deriving DecidableEq

def RequestUrlFault.message : RequestUrlFault → Text
  | .tooLong => "URL too long"
  | .control c position =>
    "Invalid non-printable ASCII character in URL, " ++ Text.quoted [c] ++ " at position "
      ++ Text.ofNat position ++ "."
  | .partTooLong part => "URL component '" ++ part.name ++ "' too long"
  | .partControl part c position =>
    "Invalid non-printable ASCII character in URL " ++ part.name ++ " component, " ++ Text.quoted [c]
      ++ " at position " ++ Text.ofNat position ++ "."
  | .port t => "Invalid port: " ++ t.quoted
  | .versionFour host => "Invalid IPv4 address: " ++ host.quoted
  | .versionSix host => "Invalid IPv6 address: " ++ host.quoted
  | .hostName host => "Invalid IDNA hostname: " ++ host.quoted
  | .pathWithoutSlash => "For absolute URLs, path must be empty or begin with '/'"
  | .pathWithTwoSlashes => "Relative URLs cannot have a path starting with '//'"
  | .pathWithColon => "Relative URLs cannot have a path starting with ':'"
  | .unencodable fault => fault.message

-- The normal form of a request's URL.  A query or fragment that is there may be empty.
structure RequestUrl where
  scheme : Text
  userInfo : Text
  host : Text
  port : Option Int
  path : Text
  query : Option Text
  fragment : Option Text
deriving DecidableEq

namespace RequestUrl

structure Written where
  scheme : Text
  authority : Text
  path : Text
  query : Option Text
  fragment : Option Text
deriving DecidableEq

def maxLength : Nat := 65536

def control? (t : Text) : Option (CodePoint × Nat) :=
  (t.findIdx? fun c => c.isControl || c.val = 0x7F).map fun position =>
    (t.getD position default, position)

-- What each part must not hold bare; letters, digits and `-._~` are always bare.

def isUnreserved (c : CodePoint) : Bool :=
  c.isAlphanumeric || c = '-' || c = '.' || c = '_' || c = '~'

def isVisible (c : CodePoint) : Bool := 0x20 < c.val && c.val < 0x7F

def allBut (reserved : Text) (c : CodePoint) : Bool :=
  isUnreserved c || (isVisible c && !reserved.contains c)

def isBareInFragment : CodePoint → Bool := allBut "\"<>`"
def isBareInQuery : CodePoint → Bool := allBut "\"#<>"
def isBareInPath : CodePoint → Bool := allBut "\"#<>?`\x7b\x7d"
def isBareInUserInfo : CodePoint → Bool := allBut "\"#<>?`\x7b\x7d/;=@[\\]^|"

def isBareInHost (c : CodePoint) : Bool :=
  isUnreserved c || (Text.ofString "!$&'()*+,;=\"`\x7b\x7d%|\\").contains c

def escapeCharacter (isBare : CodePoint → Bool) (c : CodePoint) : Text :=
  if isBare c then [c] else c.utf8.flatMap Form.percent

-- The part with what is not bare percent-encoded; escapes that are there are kept.  `done` is what
-- was written before, the last piece first.
def escapeAll (isBare : CodePoint → Bool) (done : List Text) : Text → Text
  | [] => done.reverse.flatten
  | c :: rest =>
    match rest with
    | high :: low :: after =>
      if c = '%' ∧ high.hexValue?.isSome ∧ low.hexValue?.isSome then
        escapeAll isBare ([c, high, low] :: done) after
      else escapeAll isBare (escapeCharacter isBare c :: done) (high :: low :: after)
    | other => escapeAll isBare (escapeCharacter isBare c :: done) other
termination_by rest => rest.length
decreasing_by all_goals simp_all <;> omega

def escape (isBare : CodePoint → Bool) (t : Text) : Except EncodeFault Text :=
  match t.find? CodePoint.isSurrogate with
  | some refused => .error ⟨.utf8, refused, 0, 1⟩
  | none => .ok (escapeAll isBare [] t)

-- A letter, then letters, digits, `+`, `-` or `.`, up to a colon; a colon alone is an empty scheme.
def splitScheme (t : Text) : Text × Text :=
  match t.cutFirst? (CodePoint.ofChar ':') with
  | none => ([], t)
  | some (scheme, rest) =>
    let isPart (c : CodePoint) : Bool := c.isAlphanumeric || c = '+' || c = '-' || c = '.'
    if scheme.isEmpty || ((scheme.head?.map CodePoint.isLetter).getD false && scheme.all isPart) then
      (scheme, rest)
    else ([], t)

def cutOptional (mark : Char) (t : Text) : Text × Option Text :=
  match t.cutFirst? (CodePoint.ofChar mark) with
  | some (before, after) => (before, some after)
  | none => (t, none)

-- User information, host and port.  A host in brackets reaches to the last closing one.
def splitAuthority (t : Text) : Text × Text × Text :=
  let (userInfo, location) := (t.cutLast? (CodePoint.ofChar '@')).getD ([], t)
  let bracketed? :=
    if location.head? = some (CodePoint.ofChar '[') then location.cutLast? (CodePoint.ofChar ']')
    else none
  let (host, rest) :=
    match bracketed? with
    | some (inside, after) => (inside ++ [CodePoint.ofChar ']'], after)
    | none =>
      (location.takeWhile (· != CodePoint.ofChar ':'), location.dropWhile (· != CodePoint.ofChar ':'))
  (userInfo, host, if rest.head? = some (CodePoint.ofChar ':') then rest.drop 1 else rest)

-- Four numbers with dots between them.  A number alone is a name like any other.
def looksLikeVersionFour (host : Text) : Bool :=
  let parts := host.splitOn (· = CodePoint.ofChar '.')
  parts.length = 4 && parts.all fun part => !part.isEmpty && part.all CodePoint.isDigit

def looksLikeVersionSix (host : Text) : Bool :=
  2 ≤ host.length && host.head? = some (CodePoint.ofChar '[')
    && host.getLast? = some (CodePoint.ofChar ']')

def readHost (host : Text) : Except RequestUrlFault Text :=
  if host.isEmpty then .ok []
  else if looksLikeVersionFour host then
    if (Address.readV4? host).isSome then .ok host else .error (.versionFour host)
  else if looksLikeVersionSix host then
    let address := (host.drop 1).dropLast
    if (Address.readV6? address).isSome then .ok address else .error (.versionSix host)
  else if host.isAscii then
    match escape isBareInHost host.lower with
    | .ok escaped => .ok escaped
    | .error fault => .error (.unencodable fault)
  else
    match HostName.toAscii host with
    | .ok ascii => .ok ascii
    | .error _ => .error (.hostName host)

-- The ports that need not be written; the scheme must be in small letters already.
def defaultPorts : List (Text × Int) :=
  [("ftp", 21), ("http", 80), ("https", 443), ("ws", 80), ("wss", 443)]

def readPort (scheme t : Text) : Except RequestUrlFault (Option Int) :=
  if t.isEmpty then .ok none
  else
    match t.toWhole? with
    | .error _ => .error (.port t)
    | .ok port => .ok (if defaultPorts.lookup scheme = some port then none else some port)

def removeDotSegments (path : Text) : Text :=
  let dot : Text := "."
  let dots : Text := ".."
  let segments := path.splitOn (· = CodePoint.ofChar '/')
  let kept := segments.foldl
    (fun (kept : List Text) segment =>
      if segment = dot then kept
      else if segment = dots then (if kept = [] ∨ kept = [[]] then kept else kept.drop 1)
      else segment :: kept)
    []
  Text.join "/" kept.reverse

def checkPath (hasScheme hasAuthority : Bool) (path : Text) : Except RequestUrlFault Unit :=
  if hasAuthority && !path.isEmpty && !path.startsWith "/" then .error .pathWithoutSlash
  else if !hasScheme && !hasAuthority && path.startsWith "//" then .error .pathWithTwoSlashes
  else if !hasScheme && !hasAuthority && path.startsWith ":" then .error .pathWithColon
  else .ok ()

def escapePart (isBare : CodePoint → Bool) (t : Text) : Except RequestUrlFault Text :=
  match escape isBare t with
  | .ok escaped => .ok escaped
  | .error fault => .error (.unencodable fault)

def escapeOptional (isBare : CodePoint → Bool) : Option Text → Except RequestUrlFault (Option Text)
  | none => .ok none
  | some t => (escapePart isBare t).map some

def Written.ofText (t : Text) : Written :=
  let (beforeFragment, fragment) := cutOptional '#' t
  let (scheme, afterScheme) := splitScheme beforeFragment
  let (hierarchy, query) := cutOptional '?' afterScheme
  if hierarchy.startsWith "//" then
    let location := hierarchy.drop 2
    ⟨scheme, location.takeWhile (· != CodePoint.ofChar '/'),
      location.dropWhile (· != CodePoint.ofChar '/'), query, fragment⟩
  else ⟨scheme, [], hierarchy, query, fragment⟩

-- The normal form of written parts.  A host given beside them takes the place of their own.
def Written.normalize (w : Written) (host? : Option Text) : Except RequestUrlFault RequestUrl := do
  let (userInfo, ownHost, port) := splitAuthority w.authority
  let userInfo ← escapePart isBareInUserInfo userInfo
  let host ← readHost (host?.getD ownHost)
  let port ← readPort w.scheme port
  let hasScheme := !w.scheme.isEmpty
  let hasAuthority := !userInfo.isEmpty || !host.isEmpty || port.isSome
  checkPath hasScheme hasAuthority w.path
  let path := if hasScheme || hasAuthority then removeDotSegments w.path else w.path
  let path ← escapePart isBareInPath path
  let query ← escapeOptional isBareInQuery w.query
  let fragment ← escapeOptional isBareInFragment w.fragment
  return ⟨w.scheme.lower, userInfo, host, port, path, query, fragment⟩

def read (t : Text) : Except RequestUrlFault RequestUrl := do
  if maxLength < t.length then throw .tooLong
  match control? t with
  | some (c, position) => throw (.control c position)
  | none => pure ()
  (Written.ofText t).normalize none

def checkPart (part : UrlPart) (t : Text) : Except RequestUrlFault Unit :=
  if maxLength < t.length then .error (.partTooLong part)
  else
    match control? t with
    | some (c, position) => .error (.partControl part c position)
    | none => .ok ()

-- The URL that changed parts make; each part is checked before they are put together.
def Written.assemble (w : Written) (host? : Option Text) : Except RequestUrlFault RequestUrl := do
  checkPart .scheme w.scheme
  checkPart .authority w.authority
  checkPart .path w.path
  checkPart .query (w.query.getD [])
  checkPart .fragment (w.fragment.getD [])
  checkPart .host (host?.getD [])
  w.normalize host?

def bracketed (host : Text) : Text :=
  if host.contains (CodePoint.ofChar ':')
      && !(host.startsWith "[" && host.getLast? = some (CodePoint.ofChar ']')) then
    "[" ++ host ++ "]"
  else host

def location (u : RequestUrl) : Text :=
  bracketed u.host ++ (match u.port with | none => [] | some port => ":" ++ Text.ofInt port)

def authority (u : RequestUrl) : Text :=
  (if u.userInfo.isEmpty then [] else u.userInfo ++ [CodePoint.ofChar '@']) ++ u.location

def toText (u : RequestUrl) : Text :=
  (if u.scheme.isEmpty then [] else u.scheme ++ [CodePoint.ofChar ':'])
    ++ (if u.authority.isEmpty then [] else ("//" : Text) ++ u.authority)
    ++ u.path
    ++ (match u.query with | none => [] | some query => "?" ++ query)
    ++ (match u.fragment with | none => [] | some fragment => "#" ++ fragment)

def written (u : RequestUrl) : Written := ⟨u.scheme, u.authority, u.path, u.query, u.fragment⟩

-- The URL with another host; now that its scheme is in small letters a default port goes.
def withHost (u : RequestUrl) (host : Text) : Except RequestUrlFault RequestUrl :=
  u.written.assemble (some (bracketed host))

def withFragment (u : RequestUrl) (fragment : Text) : Except RequestUrlFault RequestUrl :=
  { u.written with fragment := some fragment }.assemble none

def isAbsolute (u : RequestUrl) : Bool := !u.scheme.isEmpty && !u.host.isEmpty

-- Path and query with exactly one slash before them; all that is kept of a URL that is not
-- absolute.
def relative (u : RequestUrl) : Except RequestUrlFault RequestUrl :=
  let path := CodePoint.ofChar '/' :: u.path.dropWhile (· = CodePoint.ofChar '/')
  Written.assemble ⟨[], [], path, u.query, none⟩ none

def forRequest (t : Text) : Except RequestUrlFault RequestUrl := do
  let u ← read t
  if u.isAbsolute then return u else u.relative

def hostName (u : RequestUrl) : Except HostNameFault Text :=
  if u.host.startsWith HostName.asciiMark then HostName.toLetters u.host else .ok u.host

def fragmentText (u : RequestUrl) : Text := Form.decodePercent (u.fragment.getD [])

def credentials? (u : RequestUrl) : Option (Text × Text) :=
  let (name, password) :=
    (u.userInfo.cutFirst? (CodePoint.ofChar ':')).getD (u.userInfo, [])
  let name := Form.decodePercent name
  let password := Form.decodePercent password
  if name.isEmpty && password.isEmpty then none else some (name, password)

end RequestUrl

end OidcLogin
