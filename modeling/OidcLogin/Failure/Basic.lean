import OidcLogin.Http.Fetch
import OidcLogin.Record.Shown
import OidcLogin.Url.Split

namespace OidcLogin

inductive SettingFault
  | missing (name : Text)
  -- `unsplittable`: the text is not even split into parts.
  | malformed (name value : Text) (unsplittable : Bool)
  | plainHttp (name value : Text)
deriving DecidableEq

namespace SettingFault

def message : SettingFault → Text
  | .missing name => "OpenID setting '" ++ name ++ "' is required"
  | .malformed name value _ => "OpenID setting '" ++ name ++ "' is not a valid URL: " ++ value
  | .plainHttp name value =>
    "OpenID setting '" ++ name ++ "' is a valid URL but uses plain HTTP, which is blocked by policy: "
      ++ value ++ ". Set 'unsafe_local_dev=True' only for local testing."

def cause? : SettingFault → Option Kind
  | .malformed _ _ true => some .value
  | _ => none

end SettingFault

inductive DiscoveryFault
  | status (url : Text) (status : Int)
  | notObject (url : Text)
  | unreachable (url : Text) (fault : Http.FetchFault)
  | invalid (url : Text) (report : Report)
  | unreadable (url : Text) (fault : Http.FetchFault)
  | otherIssuer (url declared expected : Text)
  | unusable (issuer : Text) (fault : SettingFault)
deriving DecidableEq

namespace DiscoveryFault

def message : DiscoveryFault → Text
  | .status target answered =>
    "OIDC discovery at " ++ target ++ " returned HTTP " ++ Text.ofInt answered
  | .notObject target => "OIDC discovery at " ++ target ++ " did not return a JSON object"
  | .unreachable target fault =>
    "Failed to fetch OIDC configuration from " ++ target ++ ": " ++ fault.message
  -- the report stands for itself
  | .invalid target _ => "Invalid OIDC configuration from " ++ target ++ ": <validation>"
  | .unreadable target fault =>
    "Invalid JSON in OIDC configuration from " ++ target ++ ": " ++ fault.message
  | .otherIssuer target declared expected =>
    "Issuer mismatch: discovery document at " ++ target ++ " declares '" ++ declared
      ++ "', expected '" ++ expected ++ "'"
  | .unusable issuer fault =>
    "Discovered metadata for " ++ issuer ++ " is unusable: " ++ fault.message

def cause? : DiscoveryFault → Option Kind
  | .unreachable _ fault => some fault.kind
  | .invalid .. => some .validation
  | .unreadable _ fault => some fault.kind
  | .unusable .. => some .configuration
  | _ => none

end DiscoveryFault

inductive CallbackFault
  | denied (text : Text)
  | otherState
  | noCode
deriving DecidableEq

namespace CallbackFault

def kind : CallbackFault → Kind
  | .denied _ => .authorizationDenied
  | .otherState => .stateMismatch
  | .noCode => .malformedCallback

def message : CallbackFault → Text
  | .denied text => text
  | .otherState => "OpenID callback state does not match the login request"
  | .noCode => "Malformed OpenID callback"

def cause? : CallbackFault → Option Kind
  | .denied _ => none
  | .otherState => some .mismatchingState
  | .noCode => some .missingCode

end CallbackFault

inductive TokenFault
  | noCode
  | unreachable (fault : Http.FetchFault)
  | unreadable (fault : Http.FetchFault)
  | rejected (description : Option Text)
  | notObject
  | invalid (report : Report)
  | otherType (tokenType : Text)
deriving DecidableEq

namespace TokenFault

def unable : Text := "Unable to authenticate with the OpenID Connect provider"

def message : TokenFault → Text
  | .noCode => "Missing authorization code"
  | .unreachable _ => unable
  | .unreadable _ | .notObject => "Invalid response from the OpenID Connect token endpoint"
  | .rejected none => unable
  | .rejected (some description) => unable ++ ": " ++ description
  | .invalid _ => "OpenID Connect token response does not contain an access token"
  | .otherType tokenType =>
    "Unsupported token type from OpenID Connect provider: " ++ tokenType

def cause? : TokenFault → Option Kind
  | .noCode => some .missingCode
  | .unreachable fault | .unreadable fault => some fault.kind
  | .invalid _ => some .validation
  | .rejected _ | .notObject | .otherType _ => none

end TokenFault

inductive UserInfoFault
  | unreachable (fault : Http.FetchFault)
  | unreadable (fault : Http.FetchFault)
  | rejected
  | notObject
  | noEmail (report : Report)
deriving DecidableEq

namespace UserInfoFault

def message : UserInfoFault → Text
  | .unreachable _ | .rejected => "Failed to access OpenID Connect user info endpoint"
  | .unreadable _ | .notObject => "Invalid response from OpenID Connect user info endpoint"
  | .noEmail _ => "OpenID Connect user info does not contain an email address"

def cause? : UserInfoFault → Option Kind
  | .unreachable fault | .unreadable fault => some fault.kind
  | .noEmail _ => some .validation
  | .rejected | .notObject => none

end UserInfoFault

inductive AddressFault
  | unresolved (host : Text)
  | noneAcceptable (host : Text)
  | blocked (host address : Text)
  | notAddress (text : Text)
deriving DecidableEq

namespace AddressFault

def kind : AddressFault → Kind
  | .notAddress _ => .value
  | _ => .security

def message : AddressFault → Text
  | .unresolved host => "DNS resolution failed for " ++ host
  | .noneAcceptable host => "Security violation: No valid public IP found for " ++ host
  | .blocked host address => "Access to " ++ host ++ " (" ++ address ++ ") is blocked"
  | .notAddress text => Address.notAddressMessage text

def cause? : AddressFault → Option Kind
  | .unresolved _ => some .nameResolution
  | _ => none

end AddressFault

inductive Failure
  | setting (fault : SettingFault)
  | discovery (fault : DiscoveryFault)
  | callback (fault : CallbackFault)
  | token (fault : TokenFault)
  | userInfo (fault : UserInfoFault)
  | groupsDenied
  | address (fault : AddressFault)
  | fetch (fault : Http.FetchFault)
  | unencodable (fault : EncodeFault)
  | unsplittable (fault : Url.SplitFault)
  | invalid (report : Report)
  | assignment (fault : AssignFault)
  | raised (r : Raised)
deriving DecidableEq

namespace Failure

def kind : Failure → Kind
  | .setting _ => .configuration
  | .discovery _ => .discovery
  | .callback fault => fault.kind
  | .token _ => .tokenExchange
  | .userInfo _ => .userInfo
  | .groupsDenied => .groupDenied
  | .address fault => fault.kind
  | .fetch fault => fault.kind
  | .unencodable _ => .unicodeEncode
  | .unsplittable _ => .value
  | .invalid _ => .validation
  | .assignment (.frozen _) => .validation
  | .assignment (.unknownField ..) => .value
  | .raised r => r.kind

def message : Failure → Text
  | .setting fault => fault.message
  | .discovery fault => fault.message
  | .callback fault => fault.message
  | .token fault => fault.message
  | .userInfo fault => fault.message
  | .groupsDenied => "Your OpenID Groups do not permit access"
  | .address fault => fault.message
  | .fetch fault => fault.message
  | .unencodable fault => fault.message
  | .unsplittable fault => fault.message
  | .invalid _ => []
  | .assignment fault => fault.message
  | .raised r => r.message

def cause? : Failure → Option Kind
  | .setting fault => fault.cause?
  | .discovery fault => fault.cause?
  | .callback fault => fault.cause?
  | .token fault => fault.cause?
  | .userInfo fault => fault.cause?
  | .address fault => fault.cause?
  | .fetch fault => fault.cause?
  | .groupsDenied | .unencodable _ | .unsplittable _ | .invalid _ | .assignment _
  | .raised _ => none

def report? : Failure → Option Report
  | .invalid report => some report
  | .assignment (.frozen report) => some report
  | _ => none

def isLogin (f : Failure) : Bool := f.kind.isA .login

end Failure

end OidcLogin
