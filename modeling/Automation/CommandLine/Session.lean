import Automation.CommandLine.Arguments
import Automation.Journal.Outlet
import Automation.Service.Basic

/-!
The program at work: a command line is carried out on a machine, which keeps its files and databases
from one time to the next. A session yields what was printed, the exit code and the settings of the
servers that were started.
-/
namespace Automation

structure Machine where
  files : FileTree
  /-- The databases in files, by place. -/
  databases : List (List String × Database) := []
  /-- The n-th new id, and how many were drawn. -/
  newId : Nat → String
  drawn : Nat := 0
  /-- What comes of the n-th request within a time limit, and how many requests were made. -/
  network : Value → Nat → Http.Request → Http.Exchange
  sent : Nat := 0
  now : Instant

namespace Machine

/-- The contents of a database; one in memory is new every time. -/
def database (m : Machine) : DatabasePlace → Database
  | .memory => {}
  | .file path => (m.databases.lookup (m.files.place path)).getD {}

/-- Keeps a database, if it is in a file. -/
def keep (m : Machine) (place : DatabasePlace) (d : Database) : Machine :=
  match place with
  | .memory => m
  | .file path =>
    let place := m.files.place path
    { m with databases := (place, d) :: m.databases.filter fun (p, _) => p != place }

/-- The surroundings of runs on a machine. -/
def host (m : Machine) (c : Config) (database : Database) : Host where
  database
  newId := m.newId
  drawn := m.drawn
  network := m.network (.float c.httpTimeout)
  sent := m.sent
  now := m.now

/-- The machine after what happened in the surroundings of runs. -/
def after (m : Machine) (h : Host) : Machine :=
  { m with drawn := h.drawn, sent := h.sent, now := h.now }

end Machine

/-- A session: the machine, the journal, what was printed and which servers were started. -/
structure Session where
  machine : Machine
  journal : Journal.Setup := {}
  lines : List String := []
  served : List (Fields Value) := []

/-- A step of a session, which may fail. -/
abbrev SessionM := ExceptT Failure (StateM Session)

namespace Session

def print (line : String) (s : Session) : Session := { s with lines := s.lines ++ [line] }

/-- Writes records to the journal; those for the console are among what is printed. -/
def record (entries : List Journal.Entry) (s : Session) : Session :=
  let (lines, files) := s.journal.emitAll entries s.machine.now s.machine.files
  { s with machine := { s.machine with files }, lines := s.lines ++ lines }

end Session

namespace CommandLine

def print (line : String) : SessionM Unit := modify (·.print line)

def say (message : String) : SessionM Unit :=
  modify (·.record [⟨Journal.note .info .startup message, []⟩])

def checkPlaces (c : Config) : SessionM Unit := do
  let s ← get
  let (result, files) := c.checkPlaces s.machine.files
  set { s with machine := { s.machine with files } }
  liftExcept result
where liftExcept (result : Except Failure Unit) : SessionM Unit :=
  match result with
  | .ok u => pure u
  | .error f => throw f

def journalOptions (c : Config) : Journal.Options where
  level := c.logLevel.name
  file := c.logFile
  template := some c.logFormat
  structured := c.structuredLogging
  maxSize := c.logMaxSize
  backups := c.logBackupCount

def openJournal (c : Config) : SessionM Unit := do
  let s ← get
  let (result, journal, files) := s.journal.configure (journalOptions c) s.machine.files
  set { s with journal, machine := { s.machine with files } }
  match result with
  | .ok _ => pure ()
  | .error f => throw f

def locateDatabase (c : Config) : SessionM DatabasePlace :=
  match DatabaseAddress.locate c.databaseUrl with
  | .ok place => pure place
  | .error f => throw f

/-- Does something in the surroundings of runs. What it writes to the journal is written before it ends,
also where it fails. -/
def onHost {α : Type} (c : Config) (place : DatabasePlace) (act : Host → Except Failure α × Host) :
    SessionM α := do
  let s ← get
  let (result, h) := act (s.machine.host c (s.machine.database place))
  let s := s.record h.tape.entries
  set { s with machine := (s.machine.after h).keep place h.database }
  match result with
  | .ok a => pure a
  | .error f => throw f

def serve (c : Config) : SessionM Nat := do
  say s!"Starting server on {c.host}:{c.port}"
  let s ← get
  let (result, files) := Service.create c (s.machine.host c {}) s.machine.files
  set { s with machine := { s.machine with files } }
  match result with
  | .error f => throw f
  | .ok service =>
    let settings := c.serverFields ++ [("title", .str service.config.appName)]
    modify fun s => { s with served := s.served ++ [settings] }
    pure 0

/-- Makes the tables of the database, after it is emptied or not. -/
def arrangeDatabase (c : Config) (task : DatabaseTask) : SessionM Nat := do
  let place ← locateDatabase c
  match task with
  | .setUp =>
    say "Initializing database tables..."
    onHost c place fun h => ({ h with database := h.database.createTables }).migrate place.isFile
    say "Database tables created successfully"
  | .reset =>
    say "Resetting database..."
    onHost c place fun h =>
      ({ h with database := h.database.dropTables.createTables }).migrate place.isFile
    say "Database reset completed successfully"
  pure 0

def logLine (e : LogEntry) : String :=
  let data := if e.data.isEmpty then "" else (Value.dict e.data).quotedText
  let node := e.nodeId.getD "None"
  Text.trimEnd s!"  [{e.severity.text}] {node}: {e.message} {data}"

/-- Runs an execution and shows how it ended and all of its log. -/
def execute (c : Config) (id : String) : SessionM Nat := do
  let place ← locateDatabase c
  let settings : EngineSettings := { keepOutputs := c.persistOutputs }
  let ended ← onHost c place fun h =>
    ({ h with database := h.database.createTables }).run settings id
  match ended with
  | none =>
    print s!"Execution {id} not found"
    pure 1
  | some e =>
    print s!"Execution {e.id}: {e.status.text}"
    let log ← onHost c place (·.listLog e.id)
    log.forM fun entry => print (logLine entry)
    pure (if e.status = .completed then 0 else 1)

def configLines (c : Config) : List String :=
  let shown (title : String) (v : Value) : String := s!"  {title}: {v.text}"
  ["Current Configuration:", shown "App Name" (.str c.appName), shown "Version" (.str c.appVersion),
    shown "Debug" (.bool c.debug), shown "Host" (.str c.host), shown "Port" (.int c.port),
    shown "Database URL" (.str c.databaseUrl), shown "Log Level" (.str c.logLevel.name),
    shown "Max Concurrent Executions" (.int c.maxConcurrentExecutions),
    shown "HTTP Timeout" (.float c.httpTimeout) ++ "s",
    shown "Persist Outputs" (.bool c.persistOutputs)]

def validate (c : Config) : SessionM Nat :=
  tryCatch
    (do
      checkPlaces c
      print "Configuration validation: PASSED"
      print "All configuration settings are valid."
      pure 0)
    fun f =>
      match f with
      | .engine _ => do
        print "Configuration validation: FAILED"
        print s!"Error: {f.text}"
        pure 1
      | f => throw f

/-- What is printed where a command needs a task and has none. -/
def taskRequired (kind : String) : SessionM Nat := do
  print s!"{kind} command required. Use --help for options."
  pure 1

/-- Carries out a command line. Yields the exit code. -/
def perform (a : Arguments) (env : Environment) : SessionM Nat := do
  let s ← get
  match a.configuration env s.machine.files with
  | .error f => throw f
  | .ok c =>
    match a.command with
    | .config none => taskRequired "Configuration"
    | .config (some .display) =>
      (configLines c).forM print
      pure 0
    | .config (some .validate) => validate c
    | command =>
      checkPlaces c
      openJournal c
      match command with
      | .database none => taskRequired "Database"
      | .database (some task) => arrangeDatabase c task
      | .execute id => execute c id
      | _ => serve c

end CommandLine

structure Report where
  exit : Nat
  lines : List String := []
  complaint : Option String := none
  served : List (Fields Value) := []

namespace Machine

def run (m : Machine) (words : List String) (env : Environment) : Report × Machine :=
  match CommandLine.Arguments.read words with
  | .error (.help usage) => ({ exit := 0, lines := [usage] }, m)
  | .error (.wrong program fault) =>
    ({ exit := 2, complaint := some s!"{program}: error: {fault.text}" }, m)
  | .ok a =>
    match (CommandLine.perform a env).run { machine := m } with
    | (.ok exit, s) => ({ exit, lines := s.lines, served := s.served }, s.machine)
    | (.error f, s) =>
      let s := s.print s!"Error: {f.text}"
      ({ exit := 1, lines := s.lines, served := s.served }, s.machine)

end Machine
end Automation
