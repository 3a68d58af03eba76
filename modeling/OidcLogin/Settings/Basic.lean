import OidcLogin.Record.Shown
import OidcLogin.Text.Case
import OidcLogin.Validation.Scalar

namespace OidcLogin

structure Settings where
  force : Bool
  clientId : Option Text
  clientSecret : Option Text
  webUrl : Text
  webAddress : Option Text
  webPort : Int
  issuerUrl : Option Text
  authUrl : Option Text
  tokenUrl : Option Text
  userinfoUrl : Option Text
  adminGroup : Option Text
  allowGroup : Option Text
  groupsClaimName : Text
  httpTimeout : Binary64
  unsafeLocalDev : Bool
  restrictPrivateNetworks : Bool
deriving DecidableEq

namespace Settings

def model : Text := "OpenIdSettings"

def fieldNames : List Text :=
  ["force", "client_id", "client_secret", "web_url", "web_address", "web_port", "issuer_url",
   "auth_url", "token_url", "userinfo_url", "admin_group", "allow_group", "groups_claim_name",
   "http_timeout", "unsafe_local_dev", "restrict_private_networks"]

def environmentMark : Text := "coreason_openid_"

def fieldOf? (name : Text) : Option Text := fieldNames.find? (· = name.small)

-- The values of the environment: names in any case, with the mark before the field's name.
def ofEnvironment (environment : List (Text × Text)) : Members :=
  environment.foldl
    (fun members (name, value) =>
      let name := name.small
      if name.startsWith environmentMark then
        match fieldOf? (name.drop environmentMark.length) with
        | some field => members.put field (.text value)
        | none => members
      else members)
    []

-- The keywords and the environment together; keywords win, and unknown ones are kept.
def merge (keywords : Members) (environment : List (Text × Text)) : Members :=
  keywords.foldl
    (fun members (name, value) => members.put ((fieldOf? name).getD name) value)
    (ofEnvironment environment)

-- A text without blanks around it; a blank one counts as null.
def trimmedText : Reader (Option Text) :=
  (Reader.optional Reader.text).mapped fun t? => t?.bind Text.trimmed?

def claimName : Reader Text := fun place value =>
  (Reader.text place value).andThen fun t =>
    match t.trimmed? with
    | some name => .ok name
    | none => .refuse place (.special "groups_claim_name must not be empty")

def timeout : Reader Binary64 := Reader.float.satisfying .positive Binary64.isPositive

def defaultPort : Int := 8082

def defaultTimeout : Binary64 := Binary64.ofRatio false 10 1

-- The address of the web application for a host and a port; an absent or empty host is the local
-- one.
def derivedWebUrl (address : Option Text) (port : Int) : Text :=
  let host : Text :=
    match address with
    | none => "localhost"
    | some [] => "localhost"
    | some host => host
  "http://" ++ host ++ ":" ++ Text.ofInt port

-- The address that is given, or the derived one, if the port is a number that can be written.
def chosenWebUrl (given? address : Option Text) (port : Int) : Checked Text :=
  match given? with
  | some given => .ok given
  | none =>
    if (Json.int port).isWritable then .ok (derivedWebUrl address port)
    else .refuse .ofRecord (.special Text.overlongMessage)

def complete (force : Bool) (clientId clientSecret webUrl webAddress : Option Text) (webPort : Int)
    (issuerUrl authUrl tokenUrl userinfoUrl adminGroup allowGroup : Option Text)
    (groupsClaimName : Text) (httpTimeout : Binary64) (unsafeLocalDev restrict : Bool)
    (_ : Unit) : Checked Settings :=
  (chosenWebUrl webUrl webAddress webPort).map fun chosen =>
    ⟨force, clientId, clientSecret, chosen.trimEnd (· = CodePoint.ofChar '/'), webAddress, webPort, issuerUrl, authUrl,
      tokenUrl, userinfoUrl, adminGroup, allowGroup, groupsClaimName, httpTimeout, unsafeLocalDev, restrict⟩

def read (members : Members) : Checked Settings :=
  (complete
    <$> members.withDefault "force" false Reader.bool
    <*> members.withDefault "client_id" none (.optional Reader.text)
    <*> members.withDefault "client_secret" none (.optional Reader.text)
    <*> members.withDefault "web_url" none trimmedText
    <*> members.withDefault "web_address" none (.optional Reader.text)
    <*> members.withDefault "web_port" defaultPort Reader.int
    <*> members.withDefault "issuer_url" none trimmedText
    <*> members.withDefault "auth_url" none trimmedText
    <*> members.withDefault "token_url" none trimmedText
    <*> members.withDefault "userinfo_url" none trimmedText
    <*> members.withDefault "admin_group" none trimmedText
    <*> members.withDefault "allow_group" none trimmedText
    <*> members.withDefault "groups_claim_name" "groups" claimName
    <*> members.withDefault "http_timeout" defaultTimeout timeout
    <*> members.withDefault "unsafe_local_dev" false Reader.bool
    <*> members.withDefault "restrict_private_networks" false Reader.bool
    <*> members.onlyNames fieldNames).andThen id

def load (keywords : Members) (environment : List (Text × Text)) : Except Report Settings :=
  (read (merge keywords environment)).toExcept model

def shown (s : Settings) : ShownFields :=
  [("force", .bool s.force), ("client_id", .optionalText s.clientId),
   ("client_secret", .optionalSecret s.clientSecret), ("web_url", .text s.webUrl),
   ("web_address", .optionalText s.webAddress), ("web_port", .plain (.int s.webPort)),
   ("issuer_url", .optionalText s.issuerUrl), ("auth_url", .optionalText s.authUrl),
   ("token_url", .optionalText s.tokenUrl), ("userinfo_url", .optionalText s.userinfoUrl),
   ("admin_group", .optionalText s.adminGroup), ("allow_group", .optionalText s.allowGroup),
   ("groups_claim_name", .text s.groupsClaimName), ("http_timeout", .plain (.float s.httpTimeout)),
   ("unsafe_local_dev", .bool s.unsafeLocalDev),
   ("restrict_private_networks", .bool s.restrictPrivateNetworks)]

def toRecord (s : Settings) : Record := .plain model false s.shown

end Settings

end OidcLogin
