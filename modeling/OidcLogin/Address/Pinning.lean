import OidcLogin.Address.Policy
import OidcLogin.Failure.Basic
import OidcLogin.Program.Basic
import OidcLogin.Telemetry.Basic

namespace OidcLogin

-- What a look-up of a host name gives: addresses in order, some perhaps malformed, or a failure.
inductive Lookup
  | addresses (texts : List Text)
  | failed (message : Text)
deriving DecidableEq

-- A request on its way, with the name that TLS is to verify in place of the URL's host.
structure Forwarded where
  request : Http.Request
  serverName : Option Text
deriving DecidableEq

inductive TransportEffect
  | note (n : Note)
  | resolve (host : Text)
  | forward (f : Forwarded)

@[reducible]
def TransportEffect.Reply : TransportEffect → Type
  | .note _ => Unit
  | .resolve _ => Lookup
  | .forward _ => Http.Outcome

abbrev TransportProgram (α : Type) := Program TransportEffect TransportEffect.Reply α

namespace Pinning

def examine (registry : Address.Registry) (a : Address) (host : Text) : List Note × Except AddressFault Unit :=
  if registry.blocks a then
    ([.warning ("Security violation: Blocked access to " ++ host ++ " (" ++ a.toText ++ ")")],
     .error (.blocked host a.toText))
  else ([], .ok ())

-- The first acceptable address, and the notes of the blocked ones before it.
def choose (registry : Address.Registry) (host : Text) : List Text → List Note × Option Address
  | [] => ([], none)
  | text :: rest =>
    match Address.read? text with
    | none => choose registry host rest
    | some a =>
      match examine registry a host with
      | (notes, .ok ()) => (notes, some a)
      | (notes, .error _) =>
        let (more, chosen) := choose registry host rest
        (notes ++ more, chosen)

def pin (request : Http.Request) (host : Text) (a : Address) : Except RequestUrlFault Forwarded :=
  let headers :=
    if request.headers.has "Host" then request.headers
    else request.headers ++ [(Text.ofString "Host", request.url.location)]
  (request.url.withHost a.toText).map fun url =>
    ⟨{ request with url := url, headers := headers }, some host⟩

def noteAll : List Note → TransportProgram Unit
  | [] => .done ()
  | n :: rest => .ask (.note n) fun _ => noteAll rest

def fail (fault : AddressFault) : TransportProgram (Except Failure Http.Outcome) :=
  .done (.error (.address fault))

def sendTo (registry : Address.Registry) (request : Http.Request) (host : Text) (a : Address) :
    TransportProgram (Except Failure Http.Outcome) := do
  let (notes, result) := examine registry a host
  noteAll notes
  match result with
  | .error fault => fail fault
  | .ok () => .ask (.forward ⟨request, none⟩) fun outcome => .done (.ok outcome)

def sendToNamed (registry : Address.Registry) (request : Http.Request) (host : Text) :
    TransportProgram (Except Failure Http.Outcome) :=
  .ask (.resolve host) fun
    | .failed message => do
      noteAll [.error ("DNS resolution failed for " ++ host ++ ": " ++ message)]
      fail (.unresolved host)
    | .addresses texts => do
      let (notes, chosen) := choose registry host texts
      noteAll notes
      match chosen with
      | none =>
        noteAll [.error ("Security violation: No valid public IP found for " ++ host)]
        fail (.noneAcceptable host)
      | some a =>
        match pin request host a with
        | .error fault => .done (.error (.fetch (.url fault)))
        | .ok forwarded =>
          noteAll [.debug ("DNS Pinned: " ++ host ++ " -> " ++ a.toText)]
          .ask (.forward forwarded) fun outcome => .done (.ok outcome)

def transport (registry : Address.Registry) (request : Http.Request) : TransportProgram (Except Failure Http.Outcome) :=
  match request.url.hostName with
  | .error fault => .done (.error (.fetch (.hostName fault)))
  | .ok host =>
    match Address.read? host with
    | some a => sendTo registry request host a
    | none => sendToNamed registry request host

def check : Address → Text → List Note × Except AddressFault Unit := examine .standard

def handle : Http.Request → TransportProgram (Except Failure Http.Outcome) := transport .standard

end Pinning

end OidcLogin
