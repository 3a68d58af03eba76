import OidcLogin.Address.Basic
import OidcLogin.Url.Form

namespace OidcLogin.Url

-- The parts of a URL.  The parameters are what follows a semicolon in the last segment of the path.
structure Parts where
  scheme : Text
  authority : Text
  path : Text
  params : Text
  query : Text
  fragment : Text
deriving DecidableEq

inductive SplitFault
  | brackets
  | futureAddress
  | versionFour
  | notAddress (host : Text)
  | decomposition (authority : Text)
deriving DecidableEq

def SplitFault.message : SplitFault → Text
  | .brackets => "Invalid IPv6 URL"
  | .futureAddress => "IPvFuture address is invalid"
  | .versionFour => "An IPv4 address cannot be in brackets"
  | .notAddress host => Address.notAddressMessage host
  | .decomposition authority =>
    "netloc '" ++ authority ++ "' contains invalid characters under NFKC normalization"

def isRemoved (c : CodePoint) : Bool := c = '\t' || c = '\r' || c = '\n'

def cleaned (t : Text) : Text := (t.dropWhile (·.val ≤ 0x20)).filter (!isRemoved ·)

def isSchemeCharacter (c : CodePoint) : Bool :=
  c.isAlphanumeric || c = '+' || c = '-' || c = '.'

-- The scheme in lower case and what follows its colon; no scheme unless a letter begins it.
def splitScheme (t : Text) : Text × Text :=
  match t.cutFirst? (CodePoint.ofChar ':') with
  | none => ([], t)
  | some (scheme, rest) =>
    if (scheme.head?.map CodePoint.isLetter).getD false && scheme.all isSchemeCharacter then
      (scheme.lower, rest)
    else ([], t)

def endsAuthority (c : CodePoint) : Bool := c = '/' || c = '?' || c = '#'

def splitAuthority (t : Text) : Text × Text :=
  if t.startsWith "//" then
    ((t.drop 2).takeWhile (!endsAuthority ·), (t.drop 2).dropWhile (!endsAuthority ·))
  else ([], t)

def cutAt (mark : Char) (t : Text) : Text × Text :=
  (t.cutFirst? (CodePoint.ofChar mark)).getD (t, [])

def isFutureAddress (host : Text) : Bool :=
  match host with
  | v :: rest =>
    let digits := rest.takeWhile fun c => c.hexValue?.isSome
    let after := rest.drop digits.length
    v = 'v' && !digits.isEmpty && after.head? = some (CodePoint.ofChar '.') && 2 ≤ after.length
  | [] => false

-- A host between brackets must be an address of version 6, or of a version yet to come.
def checkBracketed (host : Text) : Except SplitFault Unit :=
  if host.head? = some (CodePoint.ofChar 'v') then
    if isFutureAddress host then .ok () else .error .futureAddress
  else
    match Address.read? host with
    | some (.v6 ..) => .ok ()
    | some (.v4 _) => .error .versionFour
    | none => .error (.notAddress host)

-- Brackets come in pairs, and then the host and at most a port make up what follows the user
-- information.
def checkBrackets (authority : Text) : Except SplitFault Unit :=
  let opens := authority.contains (CodePoint.ofChar '[')
  let closes := authority.contains (CodePoint.ofChar ']')
  if opens != closes then .error .brackets
  else if !opens then .ok ()
  else
    let location := ((authority.cutLast? (CodePoint.ofChar '@')).map (·.2)).getD authority
    match location.cutFirst? (CodePoint.ofChar '[') with
    | none => checkBracketed (cutAt ':' location).1
    | some (before, bracketed) =>
      let (host, port) := cutAt ']' bracketed
      if !before.isEmpty then .error .brackets
      else if !port.isEmpty && port.head? != some (CodePoint.ofChar ':') then .error .brackets
      else checkBracketed host

-- The characters beyond ASCII whose compatibility decomposition holds one of `/?#@:`.
def decomposingDelimiters : List Nat :=
  [0x2047, 0x2048, 0x2049, 0x2100, 0x2101, 0x2105, 0x2106, 0x2A74, 0xFE13, 0xFE16, 0xFE55, 0xFE56,
   0xFE5F, 0xFE6B, 0xFF03, 0xFF0F, 0xFF1A, 0xFF1F, 0xFF20]

def checkDecomposition (authority : Text) : Except SplitFault Unit :=
  if authority.any fun c => decomposingDelimiters.contains c.val then
    .error (.decomposition authority)
  else .ok ()

def schemesWithParams : List Text :=
  ["", "ftp", "hdl", "prospero", "http", "imap", "https", "shttp", "rtsp", "rtspu", "sip", "sips",
   "mms", "sftp", "tel"]

def splitParams (path : Text) : Text × Text :=
  match path.cutLast? (CodePoint.ofChar '/') with
  | none => cutAt ';' path
  | some (parents, segment) =>
    match segment.cutFirst? (CodePoint.ofChar ';') with
    | none => (path, [])
    | some (name, params) => (parents ++ CodePoint.ofChar '/' :: name, params)

-- The parts of a URL that is of `scheme` if it names none; what stands after the first `#` is its
-- fragment, and what stands between the first `?` and that its query.
def splitAs (scheme t : Text) : Except SplitFault Parts :=
  let (named, afterScheme) := splitScheme (cleaned t)
  let scheme := if named.isEmpty then scheme else named
  let (authority, remainder) := splitAuthority afterScheme
  match checkBrackets authority with
  | .error fault => .error fault
  | .ok () =>
    let (beforeFragment, fragment) := cutAt '#' remainder
    let (path, query) := cutAt '?' beforeFragment
    match checkDecomposition authority with
    | .error fault => .error fault
    | .ok () =>
      let (path, params) := if schemesWithParams.contains scheme then splitParams path else (path, [])
      .ok ⟨scheme, authority, path, params, query, fragment⟩

def split (t : Text) : Except SplitFault Parts := splitAs [] t

def schemesWithAuthority : List Text :=
  ["", "ftp", "http", "gopher", "nntp", "telnet", "imap", "wais", "file", "mms", "https", "shttp",
   "snews", "prospero", "rtsp", "rtspu", "rsync", "svn", "svn+ssh", "sftp", "nfs", "git", "git+ssh",
   "ws", "wss"]

def schemesWithRelatives : List Text :=
  ["", "ftp", "http", "gopher", "nntp", "imap", "wais", "file", "https", "shttp", "mms", "prospero",
   "rtsp", "rtspu", "sftp", "svn", "svn+ssh", "ws", "wss"]

def marked (mark : Char) (part : Text) : Text :=
  if part.isEmpty then [] else CodePoint.ofChar mark :: part

def withAuthority (scheme authority path : Text) : Text :=
  if !authority.isEmpty
      || (!scheme.isEmpty && schemesWithAuthority.contains scheme && !path.startsWith "//") then
    let path :=
      if !path.isEmpty && path.head? != some (CodePoint.ofChar '/') then CodePoint.ofChar '/' :: path
      else path
    "//" ++ authority ++ path
  else path

def unsplit (p : Parts) : Text :=
  let hierarchy := withAuthority p.scheme p.authority (p.path ++ marked ';' p.params)
  (if p.scheme.isEmpty then [] else p.scheme ++ [CodePoint.ofChar ':']) ++ hierarchy ++ marked '?' p.query
    ++ marked '#' p.fragment

def withoutInnerBlanks : List Text → List Text
  | [] => []
  | first :: rest => first :: (rest.dropLast.filter (!·.isEmpty) ++ rest.getLast?.toList)

-- The path of a reference from the place of a base: its segments follow those of the base's directory
-- unless a slash begins it.  A `.` segment goes, and a `..` segment takes the one before it away.
def resolvePath (base path : Text) : Text :=
  let slash := CodePoint.ofChar '/'
  let dot : Text := "."
  let dots : Text := ".."
  let own := path.splitOn (· = slash)
  let segments :=
    if path.head? = some slash then own
    else
      let places := base.splitOn (· = slash)
      let directory := if places.getLast? = some [] then places else places.dropLast
      withoutInnerBlanks (directory ++ own)
  let kept := segments.foldl
    (fun (kept : List Text) segment =>
      if segment = dots then kept.drop 1 else if segment = dot then kept else segment :: kept)
    []
  let isDirectory := segments.getLast? = some dot ∨ segments.getLast? = some dots
  let joined := Text.join "/" (if isDirectory then [] :: kept else kept).reverse
  if joined.isEmpty then [slash] else joined

-- A reference without an authority, from the place of a base.  Without a path it is the base with
-- another fragment, and another query if it has one.
def Parts.within (reference base : Parts) : Parts :=
  if reference.path.isEmpty && reference.params.isEmpty then
    { base with
      query := if reference.query.isEmpty then base.query else reference.query
      fragment := reference.fragment }
  else
    { reference with
      authority := base.authority
      path := resolvePath base.path reference.path }

-- The URL that a reference leads to from a base.  A reference of another scheme, or of a scheme that
-- has no relative references, stands for itself; and so does one with an authority.
def resolve (base reference : Text) : Except SplitFault Text :=
  if base.isEmpty then .ok reference
  else if reference.isEmpty then .ok base
  else
    match split base with
    | .error fault => .error fault
    | .ok origin =>
      match splitAs origin.scheme reference with
      | .error fault => .error fault
      | .ok parts =>
        if parts.scheme != origin.scheme || !schemesWithRelatives.contains parts.scheme then
          .ok reference
        else if !parts.authority.isEmpty then .ok (unsplit parts)
        else .ok (unsplit (parts.within origin))

end OidcLogin.Url
