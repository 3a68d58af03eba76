import OidcLogin.Failure.Kind
import OidcLogin.Json.Reader
import OidcLogin.Url.Request
import OidcLogin.Url.Split

namespace OidcLogin.Http

inductive FetchFault
  | url (fault : RequestUrlFault)
  | location (fault : RequestUrlFault)
  | unsplittable (fault : Url.SplitFault)
  | hostName (fault : HostNameFault)
  | unencodable (fault : EncodeFault)
  | raised (r : Raised)
  | notAbsolute (url : Text)
  -- The declared length is written with digits that are no decimal digits.
  | lengthNotDecimal (length : Text)
  | lengthTooLong (digits : Nat)
  | oversized (url : Text)
  | document (fault : DocumentFault)
deriving DecidableEq

-- So much of a quoted length is told, its opening quote included.
def maxQuoted : Nat := 200

def FetchFault.kind : FetchFault → Kind
  | .url (.unencodable _) | .location (.unencodable _) => .unicodeEncode
  | .url _ => .invalidUrl
  | .location _ => .network "RemoteProtocolError"
  | .unsplittable _ => .value
  | .hostName (.codePoint ..) => .hostCodePoint
  | .hostName (.joiner ..) | .hostName (.context ..) => .hostContext
  | .hostName (.unknownDirection ..) | .hostName (.firstDirection _) | .hostName (.direction ..)
  | .hostName .mixedNumbers | .hostName (.lastDirection _) => .hostDirection
  | .hostName _ => .hostName
  | .unencodable _ => .unicodeEncode
  | .raised r => r.kind
  | .notAbsolute _ | .lengthNotDecimal _ | .lengthTooLong _ => .value
  | .oversized _ => .oversized
  | .document (.undecodable _) => .unicodeDecode
  | .document (.malformed ..) => .jsonDecode
  | .document (.overlong _) => .value
  | .document (.tooDeep _) => .recursion

def FetchFault.message : FetchFault → Text
  | .url fault => fault.message
  | .location (.unencodable fault) => fault.message
  | .location fault => "Invalid URL in location header: " ++ fault.message ++ "."
  | .unsplittable fault => fault.message
  | .hostName fault => fault.message
  | .unencodable fault => fault.message
  | .raised r => r.message
  | .notAbsolute target => "unknown url type: " ++ target.quoted
  | .lengthNotDecimal length => "invalid literal for int() with base 10: " ++ length.quoted.take maxQuoted
  | .lengthTooLong digits => Text.tooManyDigitsMessage digits
  | .oversized target => "Response from " ++ target ++ " is too large"
  | .document fault => fault.message

def FetchFault.cause? : FetchFault → Option Kind
  | .hostName .malformedCode => some .unicode
  | .hostName (.unnamedBeforeJoiner ..) => some .value
  | _ => none

def FetchFault.isNetwork (f : FetchFault) : Bool :=
  f.kind.isA .http || f.kind.isA .oversized || f.kind.isA .security

def FetchFault.isValue (f : FetchFault) : Bool := f.kind.isA .value

end OidcLogin.Http
