import OidcLogin.Failure.Kind

namespace OidcLogin

inductive LogLevel
  | debug
  | info
  | warning
  | error
deriving DecidableEq

structure LogRecord where
  level : LogLevel
  message : Text
deriving DecidableEq

def LogLevel.name : LogLevel → Text
  | .debug => "DEBUG"
  | .info => "INFO"
  | .warning => "WARNING"
  | .error => "ERROR"

namespace Span

inductive Status
  | unset
  | ok
  | error
deriving DecidableEq

def Status.name : Status → Text
  | .unset => "UNSET"
  | .ok => "OK"
  | .error => "ERROR"

inductive Attribute
  | text (value : Text)
  | bool (value : Bool)
deriving DecidableEq

inductive Event
  | start (name : Text)
  | attribute (name : Text) (value : Attribute)
  | failure (kind : Kind)
  | status (status : Status)
  | finish
deriving DecidableEq

end Span

structure Span where
  name : Text
  status : Span.Status
  attributes : List (Text × Span.Attribute)
  failures : List Kind
deriving DecidableEq

namespace Span

def opened (name : Text) : Span := ⟨name, .unset, [], []⟩

def setAttribute (s : Span) (name : Text) (value : Attribute) : Span :=
  if s.attributes.any (·.1 = name) then
    { s with attributes := s.attributes.map fun (other, old) =>
        (other, if other = name then value else old) }
  else { s with attributes := s.attributes ++ [(name, value)] }

def setStatus (s : Span) (status : Status) : Span :=
  if s.status = .ok ∨ status = .unset then s else { s with status := status }

def record (s : Span) : Event → Span
  | .attribute name value => s.setAttribute name value
  | .failure kind => { s with failures := s.failures ++ [kind] }
  | .status status => s.setStatus status
  | .start _ | .finish => s

def collect (current : Option Span) : List Event → List Span
  | [] => []
  | .start name :: rest => collect (some (opened name)) rest
  | .finish :: rest =>
    match current with
    | some span => span :: collect none rest
    | none => collect none rest
  | event :: rest => collect (current.map (·.record event)) rest

def leave (kind : Kind) : List Event := [.failure kind, .status .error, .finish]

end Span

inductive Note
  | log (record : LogRecord)
  | span (event : Span.Event)
deriving DecidableEq

namespace Note

def debug (message : Text) : Note := .log ⟨.debug, message⟩
def info (message : Text) : Note := .log ⟨.info, message⟩
def warning (message : Text) : Note := .log ⟨.warning, message⟩
def error (message : Text) : Note := .log ⟨.error, message⟩

def log? : Note → Option LogRecord
  | .log record => some record
  | .span _ => none

def span? : Note → Option Span.Event
  | .log _ => none
  | .span event => some event

end Note

def logsOf (notes : List Note) : List LogRecord := notes.filterMap Note.log?

def spansOf (notes : List Note) : List Span := Span.collect none (notes.filterMap Note.span?)

end OidcLogin
