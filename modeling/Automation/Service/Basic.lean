import Automation.Config.Environment
import Automation.Journal.Layout
import Automation.Service.Endpoint
import Automation.Service.Middleware
import Automation.Store.Address

/-!
The web service as a whole: how it is set up and started, how it handles one request after the other,
and how it is shut down.
-/
namespace Automation.Service

namespace State

def engineSettings (s : State) : EngineSettings := { keepOutputs := s.config.persistOutputs }

def settle (s : State) : State :=
  s.taken.foldl (fun s id =>
    let (_, host) := (runGuarded s.engineSettings id).run Host.answer s.host
    { s with host, dispatcher := s.dispatcher.map (·.forget id) }) { s with taken := [] }

/-- Handles a request. `took` is the time that it takes. -/
def handle (request : Request) (took : Duration) (s : State) : Answer × State :=
  let journal (steps : List Journal.Tape.Step) (s : State) : State :=
    { s with host := { s.host with tape := s.host.tape.performAll steps } }
  let (result, s) := route request (journal (opening request) s)
  let (now, host) := s.host.readClock
  let threshold := Value.float s.config.slowRequestThreshold
  (answerOf request now result,
    journal (closing request took threshold now result) { s with host })

end State

def lacks (c : Config) : Option Failure :=
  if c.appName = "" then
    some (.reported "AssertionError" "A title must be provided for OpenAPI, e.g.: 'My API'")
  else if c.appVersion = "" then
    some (.reported "AssertionError" "A version must be provided for OpenAPI, e.g.: '2.1.0'")
  else none

/-- Sets a service up: its folders are made where they are missing. -/
def create (c : Config) (host : Host) (files : FileTree) : Except Failure State × FileTree :=
  match c.checkPlaces files with
  | (.error f, files) => (.error f, files)
  | (.ok _, files) =>
    match lacks c with
    | some f => (.error f, files)
    | none => (.ok { config := c, host }, files)

/-- Starts a service: the journal is set up, the tables are made and the dispatcher is set to work. -/
def start (s : State) : Except Failure State := do
  let c := s.config
  let say (message : String) (h : Host) : Host :=
    h.write (Journal.note .info .application message)
  let _ ← Journal.Layout.make c.structuredLogging (some c.logFormat)
  let _ ← c.databaseKind
  let place ← DatabaseAddress.locate c.databaseUrl
  let dispatcher ← Dispatcher.create c.maxConcurrentExecutions
  let host := say s!"Starting {c.appName} v{c.appVersion}" s.host
  let host := say "Database tables created" { host with database := host.database.createTables }
  let (_, host) := host.migrate place.isFile
  let host := say "Core components initialized" (host.write dispatcher.createdNote)
  .ok { s with
    host := say "Application startup completed successfully" host
    dispatcher := some dispatcher }

/-- Shuts a service down. What was taken is still run. -/
def shutDown (s : State) : State :=
  let s := s.settle
  { s with
    dispatcher := s.dispatcher.map Dispatcher.shutDown
    host := s.host.write Dispatcher.shutDownNote }

end Automation.Service
