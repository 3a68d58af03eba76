import OidcLogin.Logging.Setup

namespace OidcLogin.Rehearsal

open Logging

structure LogBook where
  setup : Setup
  output : List Entry
  errors : List Entry
  files : List (Text × Entry)
  blocked : List (Text × Text)

namespace LogBook

def start (blocked : List (Text × Text)) : LogBook := ⟨⟨[], [], 0⟩, [], [], [], blocked⟩

def next (b : LogBook) : LogBook := { b with output := [], errors := [] }

def write (b : LogBook) (d : Delivery) : LogBook :=
  match d.sink.target with
  | .standardOutput => { b with output := b.output ++ [d.entry] }
  | .standardError => { b with errors := b.errors ++ [d.entry] }
  | .file path => { b with files := b.files ++ [(path, d.entry)] }

def writeAll (b : LogBook) (ds : List Delivery) : LogBook := ds.foldl write b

def openFile (b : LogBook) (path : Text) : Except Text Unit :=
  match b.blocked.lookup path with
  | some problem => .error problem
  | none => .ok ()

def configure (b : LogBook) (e : Environment) : LogBook :=
  let (setup, told) := b.setup.configure e b.openFile
  { b with setup := setup }.writeAll told

def emit (b : LogBook) (deliveries : Except EntryFault (List Delivery)) :
    Except EntryFault LogBook :=
  deliveries.map b.writeAll

def closeAll (b : LogBook) : LogBook := { b with setup := b.setup.withoutSinks }

def fileEntries (b : LogBook) (path : Text) : List Entry :=
  b.files.filterMap fun (other, entry) => if other = path then some entry else none

end LogBook

def firstLine (e : Entry) : Text := e.message.takeWhile (· != CodePoint.ofChar '\n')

end OidcLogin.Rehearsal
