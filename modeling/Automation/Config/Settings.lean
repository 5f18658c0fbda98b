import Automation.Document.Checked
import Automation.Document.Record
import Automation.Journal.Record
import Automation.Text.Letter

/-!
The configuration: its settings, the rules that they keep, and the sets of settings that are ready for
use. What depends on the database is derived from the scheme of its address.
-/
namespace Automation

open Document (Checked Check)

/-- The formats and limits of the journal unless others are configured. -/
def standardLogFormat : String := "%(asctime)s - %(name)s - %(levelname)s - %(message)s"

def wholeDouble (n : Nat) : Double := .number false (Double.rankOfRatio n 1)

structure Config where
  appName : String := "Flow Engine"
  appVersion : String := "1.0.0"
  debug : Bool := false
  host : String := "0.0.0.0"
  port : Int := 8000
  reload : Bool := false
  databaseUrl : String := "sqlite:///./flowengine.db"
  databaseEcho : Bool := false
  maxConcurrentExecutions : Int := 10
  httpTimeout : Double := wholeDouble 30
  persistOutputs : Bool := false
  logLevel : Journal.Level := .info
  logFormat : String := standardLogFormat
  logFile : Option String := none
  logMaxSize : Int := 10485760
  logBackupCount : Int := 5
  structuredLogging : Bool := false
  slowRequestThreshold : Double := wholeDouble 5
  corsOrigins : List Value := [.str "*"]
  corsMethods : List Value := [.str "GET", .str "POST"]
  deriving Inhabited

inductive DatabaseKind where
  | sqlite
  | postgresql
  | mysql
  deriving DecidableEq, Repr, Inhabited

namespace DatabaseKind

def name : DatabaseKind → String
  | .sqlite => "sqlite"
  | .postgresql => "postgresql"
  | .mysql => "mysql"

def all : List DatabaseKind := [.sqlite, .postgresql, .mysql]

def ofName? (s : String) : Option DatabaseKind := all.find? (·.name == s)

end DatabaseKind

def beforeFirst (separator s : String) : String := (s.splitOn separator).headD ""

def afterFirst (separator s : String) : String :=
  match s.splitOn separator with
  | _ :: rest => if rest.isEmpty then s else separator.intercalate rest
  | [] => s

/-- The scheme of a database address, without the name of a driver. -/
def databaseScheme (url : String) : String :=
  Text.lower (beforeFirst "+" (beforeFirst "://" url))

namespace Config

def databaseKind? (c : Config) : Option DatabaseKind := DatabaseKind.ofName? (databaseScheme c.databaseUrl)

def databaseKind (c : Config) : Except Failure DatabaseKind :=
  match c.databaseKind? with
  | some kind => .ok kind
  | none => .error (.reported "ValueError" s!"Unknown database type: {databaseScheme c.databaseUrl}")

def isSqlite (c : Config) : Except Failure Bool := c.databaseKind.map (· == .sqlite)

def connectArgs (c : Config) : Except Failure (Fields Value) :=
  c.isSqlite.map fun is => if is then [("check_same_thread", .bool false)] else []

def isInMemory (c : Config) : Bool := (c.databaseUrl.splitOn ":memory:").length > 1

def serverFields (c : Config) : Fields Value :=
  [("host", .str c.host), ("port", .int c.port), ("reload", .bool c.reload),
    ("log_level", .str (Text.lower c.logLevel.name)), ("access_log", .bool c.debug)]

def logLevels : List Journal.Level := [.debug, .info, .warning, .error, .critical]

def databaseUrlRule (url : String) : Checked String :=
  let scheme := databaseScheme url
  let known := (Value.ofStrings (DatabaseKind.all.map DatabaseKind.name)).text
  if url = "" then .problem (.rule "Database URL cannot be empty") (.str url)
  else Document.ruleFor (.str url) (DatabaseKind.ofName? scheme).isSome
    s!"Unsupported database scheme: {scheme}. Supported: {known}" url

def portRule (port : Int) : Checked Int :=
  Document.ruleFor (.int port) (1 ≤ port && port ≤ 65535) "Port must be between 1 and 65535" port

def maxConcurrentRule (n : Int) : Checked Int :=
  Document.ruleFor (.int n) (1 ≤ n) "Maximum concurrent executions must be at least 1" n

/-- A timeout is not zero or less. -/
def timeoutRule (x : Double) : Checked Double :=
  Document.ruleFor (.float x) (!x.atMost .zero) "HTTP timeout must be positive" x

def anyList : Check (List Value) := Check.list Check.any

/-- Reads settings; what is not given has its default. -/
def read (fields : Fields Value) : Checked Config :=
  let d : Config := {}
  Config.mk <$> Document.optional fields "app_name" d.appName Check.text
    <*> Document.optional fields "app_version" d.appVersion Check.text
    <*> Document.optional fields "debug" d.debug Check.truth
    <*> Document.optional fields "host" d.host Check.text
    <*> Document.optional fields "port" d.port (fun v => (Check.integer v).andThen portRule)
    <*> Document.optional fields "reload" d.reload Check.truth
    <*> Document.optional fields "database_url" d.databaseUrl
      (fun v => (Check.text v).andThen databaseUrlRule)
    <*> Document.optional fields "database_echo" d.databaseEcho Check.truth
    <*> Document.optional fields "max_concurrent_executions" d.maxConcurrentExecutions
      (fun v => (Check.integer v).andThen maxConcurrentRule)
    <*> Document.optional fields "http_timeout" d.httpTimeout
      (fun v => (Check.number v).andThen timeoutRule)
    <*> Document.optional fields "persist_outputs" d.persistOutputs Check.truth
    <*> Document.optional fields "log_level" d.logLevel
      (Check.oneOf logLevels Journal.Level.name)
    <*> Document.optional fields "log_format" d.logFormat Check.text
    <*> Document.optional fields "log_file" d.logFile (Check.nullable Check.text)
    <*> Document.optional fields "log_max_size" d.logMaxSize Check.integer
    <*> Document.optional fields "log_backup_count" d.logBackupCount Check.integer
    <*> Document.optional fields "structured_logging" d.structuredLogging Check.truth
    <*> Document.optional fields "slow_request_threshold" d.slowRequestThreshold Check.number
    <*> Document.optional fields "cors_origins" d.corsOrigins anyList
    <*> Document.optional fields "cors_methods" d.corsMethods anyList

def make (fields : Fields Value) : Except Failure Config :=
  match read fields with
  | .good c => .ok c
  | .bad problems => .error (.invalid "AppConfig" problems)

def fields (c : Config) : Fields Value :=
  [("app_name", .str c.appName), ("app_version", .str c.appVersion), ("debug", .bool c.debug),
    ("host", .str c.host), ("port", .int c.port), ("reload", .bool c.reload),
    ("database_url", .str c.databaseUrl), ("database_echo", .bool c.databaseEcho),
    ("max_concurrent_executions", .int c.maxConcurrentExecutions),
    ("http_timeout", .float c.httpTimeout), ("persist_outputs", .bool c.persistOutputs),
    ("log_level", .str c.logLevel.name), ("log_format", .str c.logFormat),
    ("log_file", Document.optionText c.logFile), ("log_max_size", .int c.logMaxSize),
    ("log_backup_count", .int c.logBackupCount),
    ("structured_logging", .bool c.structuredLogging),
    ("slow_request_threshold", .float c.slowRequestThreshold),
    ("cors_origins", .list c.corsOrigins), ("cors_methods", .list c.corsMethods)]

def development : Config :=
  { debug := true, reload := true, logLevel := .debug, databaseEcho := true, persistOutputs := true }

def production : Config := { structuredLogging := true, corsOrigins := [] }

def testing : Config :=
  { debug := true, databaseUrl := "sqlite:///:memory:", logLevel := .warning
    maxConcurrentExecutions := 2, httpTimeout := wholeDouble 5 }

/-- The settings that a name stands for. -/
def preset? (name : String) : Option Config :=
  match name with
  | "development" => some development
  | "production" => some production
  | "testing" => some testing
  | _ => none

end Config
end Automation
