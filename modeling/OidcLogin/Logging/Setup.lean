import OidcLogin.Logging.Level
import OidcLogin.Logging.Template

namespace OidcLogin.Logging

inductive Target
  | standardOutput
  | standardError
  | file (path : Text)
deriving DecidableEq

-- The console's error stream shows records as lines of text; everything else gets them as JSON.
def Target.isJson : Target → Bool
  | .standardError => false
  | .standardOutput | .file _ => true

def Target.isConsole : Target → Bool
  | .standardOutput | .standardError => true
  | .file _ => false

structure Sink where
  target : Target
  threshold : Int
deriving DecidableEq

inductive LibraryHandler
  | intercepting
  | other (name : Text)
deriving DecidableEq

def LibraryHandler.name : LibraryHandler → Text
  | .intercepting => "InterceptHandler"
  | .other name => name

structure Setup where
  sinks : List Sink
  libraryHandlers : List LibraryHandler
  libraryThreshold : Int
deriving DecidableEq

structure Entry where
  level : Level
  message : Text
  failure : Option Text
  -- The record was made inside a span, whose identifiers it carries.
  traced : Bool
deriving DecidableEq

def Entry.extra (e : Entry) : List Text := if e.traced then ["span_id", "trace_id"] else []

structure Delivery where
  sink : Sink
  entry : Entry
deriving DecidableEq

inductive EntryFault
  | unknownLevel (name : Text)
  | negativeLevel (number : Int)
  | template (fault : TemplateFault)
deriving DecidableEq

namespace EntryFault

def kind : EntryFault → Kind
  | .unknownLevel _ | .negativeLevel _ => .value
  | .template fault => fault.kind

def message : EntryFault → Text
  | .unknownLevel name => "Level '" ++ name ++ "' does not exist"
  | .negativeLevel number =>
    "Invalid level value, it should be a positive integer, not: " ++ Text.ofInt number
  | .template fault => fault.message

end EntryFault

inductive LevelChoice
  | named (name : Text)
  | numbered (number : Int)
deriving DecidableEq

def LevelChoice.resolve : LevelChoice → Except EntryFault Level
  | .named name =>
    match Level.named? name with
    | some level => .ok level
    | none => .error (.unknownLevel name)
  | .numbered number => if number < 0 then .error (.negativeLevel number) else .ok (.numbered number)

structure Environment where
  level : Option Text
  json : Option Text
  file : Option Text
deriving DecidableEq

namespace Environment

def ofPairs (pairs : List (Text × Text)) : Environment :=
  let value? (name : Text) : Option Text := pairs.lookup name
  ⟨value? "COREASON_LOG_LEVEL", value? "COREASON_LOG_JSON", value? "COREASON_LOG_FILE"⟩

-- The level that is named, in letters of any case; a name that is not known stands for INFO.
def threshold (e : Environment) : Level :=
  ((e.level.bind fun name => Level.named? name.capitals)).getD .info

def isJson (e : Environment) : Bool := (e.json.getD []).lower = "true"

def console (e : Environment) : Target := if e.isJson then .standardOutput else .standardError

def path? (e : Environment) : Option Text :=
  match e.file with
  | none | some [] => none
  | path => path

end Environment

namespace Setup

def withoutSinks (s : Setup) : Setup := { s with sinks := [] }

def addSink (s : Setup) (sink : Sink) : Setup := { s with sinks := s.sinks ++ [sink] }

-- Every record of a library goes to this one handler, from the threshold on.
def replaceHandlers (s : Setup) (handler : LibraryHandler) (threshold : Int) : Setup :=
  { s with libraryHandlers := [handler], libraryThreshold := threshold }

def deliver (s : Setup) (entry : Entry) : List Delivery :=
  (s.sinks.filter fun sink => decide (sink.threshold ≤ entry.level.number)).map (⟨·, entry⟩)

def blockedEntry (path problem : Text) : Entry :=
  ⟨.warning, "File logging disabled, cannot open " ++ path ++ ": " ++ problem, none, false⟩

-- The setup with the log file added, or a warning that it cannot be opened.
def addFile (s : Setup) (path? : Option Text) (threshold : Int)
    (openFile : Text → Except Text Unit) : Setup × List Delivery :=
  match path? with
  | none => (s, [])
  | some path =>
    match openFile path with
    | .ok () => (s.addSink ⟨.file path, threshold⟩, [])
    | .error problem => (s, s.deliver (blockedEntry path problem))

def configure (s : Setup) (e : Environment) (openFile : Text → Except Text Unit) :
    Setup × List Delivery :=
  let threshold := e.threshold.number
  let withConsole := s.withoutSinks.addSink ⟨e.console, threshold⟩
  let (withFile, told) := withConsole.addFile e.path? threshold openFile
  (withFile.replaceHandlers .intercepting threshold, told)

-- A record of the application's own.  Without a sink nothing is looked at.
def emit (s : Setup) (level : LevelChoice) (message : Text) (traced : Bool) :
    Except EntryFault (List Delivery) :=
  if s.sinks.isEmpty then .ok []
  else level.resolve.map fun level => s.deliver ⟨level, message, none, traced⟩

def admits (s : Setup) (number : Int) : Bool := 0 < number && s.libraryThreshold ≤ number

def handleWith (s : Setup) (entry : Entry) : LibraryHandler → List Delivery
  | .intercepting => s.deliver entry
  | .other _ => []

-- A record of a library, whose logger hands it on and has no threshold of its own: its template is
-- filled in once the gate has let it through.
def emitNamed (s : Setup) (name : Text) (number : Int) (template : Text) (arguments : List Json)
    (failure : Option Text) (traced : Bool) : Except EntryFault (List Delivery) :=
  if s.admits number then
    match Template.message template arguments with
    | .error fault => .error (.template fault)
    | .ok message =>
      .ok (s.libraryHandlers.flatMap
        (s.handleWith ⟨.ofRecord name number, message, failure, traced⟩))
  else .ok []

def emitLibrary (s : Setup) (number : Int) (template : Text) (arguments : List Json)
    (failure : Option Text) (traced : Bool) : Except EntryFault (List Delivery) :=
  s.emitNamed (Level.ofLibrary number).name number template arguments failure traced

end Setup

end OidcLogin.Logging
