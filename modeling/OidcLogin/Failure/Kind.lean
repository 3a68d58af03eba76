import OidcLogin.Text.Quoted

namespace OidcLogin

-- The list is closed: a class that somebody derives from one of these has no counterpart here.
inductive Kind
  | openId
  | configuration
  | discovery
  | login
  | authorizationDenied
  | malformedCallback
  | stateMismatch
  | tokenExchange
  | userInfo
  | groupDenied
  | storage
  | oversized
  | security
  | value
  | unicode
  | unicodeEncode
  | unicodeDecode
  | jsonDecode
  | validation
  | hostName
  | hostCodePoint
  | hostContext
  | hostDirection
  | missingCode
  | mismatchingState
  | invalidUrl
  | http
  | network (name : Text)
  | runtime
  | recursion
  | os
  | nameResolution
  | key
  | type
  | overflow
deriving DecidableEq

namespace Kind

def name : Kind → Text
  | .openId => "CoreasonOpenIdError"
  | .configuration => "ConfigurationError"
  | .discovery => "ProviderDiscoveryError"
  | .login => "LoginError"
  | .authorizationDenied => "AuthorizationDeniedError"
  | .malformedCallback => "MalformedCallbackError"
  | .stateMismatch => "StateMismatchError"
  | .tokenExchange => "TokenExchangeError"
  | .userInfo => "UserInfoFetchError"
  | .groupDenied => "GroupAuthorizationDeniedError"
  | .storage => "StorageError"
  | .oversized => "OversizedResponseError"
  | .security => "SecurityError"
  | .value => "ValueError"
  | .unicode => "UnicodeError"
  | .unicodeEncode => "UnicodeEncodeError"
  | .unicodeDecode => "UnicodeDecodeError"
  | .jsonDecode => "JSONDecodeError"
  | .validation => "ValidationError"
  | .hostName => "IDNAError"
  | .hostCodePoint => "InvalidCodepoint"
  | .hostContext => "InvalidCodepointContext"
  | .hostDirection => "IDNABidiError"
  | .missingCode => "MissingCodeException"
  | .mismatchingState => "MismatchingStateException"
  | .invalidUrl => "InvalidURL"
  | .http => "HTTPError"
  | .network name => name
  | .runtime => "RuntimeError"
  | .recursion => "RecursionError"
  | .os => "OSError"
  | .nameResolution => "gaierror"
  | .key => "KeyError"
  | .type => "TypeError"
  | .overflow => "OverflowError"

def parent? : Kind → Option Kind
  | .configuration | .discovery | .login | .oversized | .security => some .openId
  | .authorizationDenied | .malformedCallback | .tokenExchange | .userInfo | .groupDenied
  | .storage => some .login
  | .stateMismatch => some .malformedCallback
  | .unicode | .jsonDecode | .validation => some .value
  | .unicodeEncode | .unicodeDecode | .hostName => some .unicode
  | .hostCodePoint | .hostContext | .hostDirection => some .hostName
  | .network _ => some .http
  | .recursion => some .runtime
  | .nameResolution => some .os
  | .openId | .value | .missingCode | .mismatchingState | .invalidUrl | .http | .runtime | .os
  | .key | .type | .overflow => none

-- The classes above a class, the nearest first; three steps lead to the top from anywhere.
def above (k : Kind) : List Kind :=
  match k.parent? with
  | none => []
  | some a =>
    match a.parent? with
    | none => [a]
    | some b =>
      match b.parent? with
      | none => [a, b]
      | some c => [a, b, c]

def isA (k general : Kind) : Bool := k = general || k.above.contains general

def topNames : List Text := ["Exception", "BaseException"]

def isHandledBy (k : Kind) (name : Text) : Bool :=
  topNames.contains name || name = k.name || k.above.any (·.name = name)

def own : List Kind :=
  [.openId, .configuration, .discovery, .login, .authorizationDenied, .malformedCallback,
   .stateMismatch, .tokenExchange, .userInfo, .groupDenied, .storage, .oversized, .security]

-- The class of a name: the login flow's own, or one of the surroundings.  Every other name is that of
-- a class of the network.
def ofName (name : Text) : Kind :=
  let known : List Kind := own ++ [.value, .invalidUrl, .runtime, .os, .key, .http]
  (known.find? (·.name = name)).getD (.network name)

end Kind

structure Raised where
  kind : Kind
  message : Text
deriving DecidableEq

-- What a party raises by the name of a class; a missing key is told by its quoted text.
def Raised.ofName (name message : Text) : Raised :=
  let kind := Kind.ofName name
  ⟨kind, if kind = .key then message.quoted else message⟩

end OidcLogin
