import Automation.Config.EnvFile
import Automation.Config.Settings
import Automation.Files

/-!
Configuration from the environment and from files, and the check of what depends on the machine: the
folders of the database and of the journal's file are made where they are missing.
-/
namespace Automation

open Number (readDouble? readIntegerDigits? signed valueFrom maxDigits)

abbrev Environment := Fields String

def integerSetting (s : String) : Except Failure Int :=
  match readIntegerDigits? s with
  | some (negative, ds) =>
    if maxDigits < ds.length then .error (.tooManyDigits ds.length)
    else .ok (signed negative (valueFrom 0 ds))
  | none => .error (.notInteger s)

def numberSetting (s : String) : Except Failure Double :=
  match readDouble? s with
  | some x => .ok x
  | none => .error (.notNumber s)

def onWords : List String := ["true", "1", "yes", "on"]

def switchSetting (s : String) : Bool := onWords.contains (Text.lower s)

namespace Config

def variablePrefix : String := "FLOW_ENGINE_"

def given? (env : Environment) (name : String) : Option String :=
  env.get? (variablePrefix ++ name)

/-- A setting as text. -/
def textField (env : Environment) (key name : String) : Fields Value :=
  ((given? env name).map fun s => (key, .str s)).toList

def switchField (env : Environment) (key name : String) : Fields Value :=
  ((given? env name).map fun s => (key, .bool (switchSetting s))).toList

/-- A list of texts between commas; the empty text leaves the default. -/
def listField (env : Environment) (key name : String) : Fields Value :=
  match given? env name with
  | some s => if s = "" then [] else [(key, .ofStrings (s.splitOn ","))]
  | none => []

def integerField (env : Environment) (key name : String) : Except Failure (Fields Value) :=
  match given? env name with
  | some s => (integerSetting s).map fun n => [(key, .int n)]
  | none => .ok []

def numberField (env : Environment) (key name : String) : Except Failure (Fields Value) :=
  match given? env name with
  | some s => (numberSetting s).map fun x => [(key, .float x)]
  | none => .ok []

/-- The level of the journal, in letters of any case. -/
def levelField (env : Environment) : Except Failure (Fields Value) :=
  match given? env "LOG_LEVEL" with
  | some s =>
    let word := Text.upper s
    if (logLevels.map Journal.Level.name).contains word then .ok [("log_level", .str word)]
    else .error (.notMember word "LogLevel")
  | none => .ok []

def variableNames : List String :=
  ["APP_NAME", "APP_VERSION", "DEBUG", "HOST", "PORT", "RELOAD", "DATABASE_URL", "DATABASE_ECHO",
    "MAX_CONCURRENT_EXECUTIONS", "HTTP_TIMEOUT", "PERSIST_OUTPUTS", "LOG_LEVEL", "LOG_FORMAT",
    "LOG_FILE", "LOG_MAX_SIZE", "LOG_BACKUP_COUNT", "STRUCTURED_LOGGING", "SLOW_REQUEST_THRESHOLD",
    "CORS_ORIGINS", "CORS_METHODS"]

/-- The configuration that the environment gives. A variable that cannot be converted is reported
alone, the first of them; broken rules are reported together. -/
def ofEnvironment (env : Environment) : Except Failure Config := do
  let port ← integerField env "port" "PORT"
  let maxConcurrent ← integerField env "max_concurrent_executions" "MAX_CONCURRENT_EXECUTIONS"
  let timeout ← numberField env "http_timeout" "HTTP_TIMEOUT"
  let level ← levelField env
  let maxSize ← integerField env "log_max_size" "LOG_MAX_SIZE"
  let backupCount ← integerField env "log_backup_count" "LOG_BACKUP_COUNT"
  let threshold ← numberField env "slow_request_threshold" "SLOW_REQUEST_THRESHOLD"
  make (textField env "app_name" "APP_NAME" ++ textField env "app_version" "APP_VERSION" ++
    switchField env "debug" "DEBUG" ++ textField env "host" "HOST" ++ port ++
    switchField env "reload" "RELOAD" ++ textField env "database_url" "DATABASE_URL" ++
    switchField env "database_echo" "DATABASE_ECHO" ++ maxConcurrent ++ timeout ++
    switchField env "persist_outputs" "PERSIST_OUTPUTS" ++ level ++
    textField env "log_format" "LOG_FORMAT" ++ textField env "log_file" "LOG_FILE" ++ maxSize ++
    backupCount ++ switchField env "structured_logging" "STRUCTURED_LOGGING" ++ threshold ++
    listField env "cors_origins" "CORS_ORIGINS" ++ listField env "cors_methods" "CORS_METHODS")

/-- The file of variables that is read where no other is named or the named one does not exist. -/
def standardEnvFile : String := ".env"

/-- The environment after the file of variables is read, if there is one. -/
def withEnvFile (file : Option String) (files : FileTree) (env : Environment) : Environment :=
  let named := match file with
    | some path => if path != "" && files.exists? path then some path else none
    | none => none
  let path := named.getD standardEnvFile
  match files.read? path with
  | some text => EnvFile.load text env
  | none => env

/-- The folder of the database file, empty where the database needs none. -/
def databaseFolder (c : Config) : String := folderText (afterFirst ":///" c.databaseUrl)

/-- Makes a folder unless there is something in its place already. -/
def prepareFolder (purpose path : String) (files : FileTree) : Option String × FileTree :=
  if path = "" || files.exists? path then (none, files)
  else match files.makeFolders path with
    | .ok files => (none, files)
    | .error fault => (some s!"Cannot create {purpose} directory {path}: {fault.text}", files)

/-- The most executions at once that are not warned of. -/
def reasonableConcurrency : Int := 100

/-- Checks a configuration against the machine. All that is wrong is reported together. -/
def checkPlaces (c : Config) (files : FileTree) : Except Failure Unit × FileTree :=
  match c.isSqlite with
  | .error f => (.error f, files)
  | .ok sqlite =>
    let (database, files) :=
      if sqlite && !c.isInMemory then prepareFolder "database" c.databaseFolder files
      else (none, files)
    let (log, files) := match c.logFile with
      | some path => prepareFolder "log" (folderText path) files
      | none => (none, files)
    let many := if reasonableConcurrency < c.maxConcurrentExecutions
      then some "Warning: High concurrent execution limit may impact performance" else none
    let wrong := database.toList ++ log.toList ++ many.toList
    if wrong.isEmpty then (.ok (), files)
    else
      let list := "; ".intercalate wrong
      (.error (.ofKind .configuration s!"Configuration validation failed: {list}"), files)

end Config

structure ConfigSession where
  current : Option (Nat × Config) := none
  loadings : Nat := 0
  environment : Environment := []
  files : FileTree
  deriving Inhabited

namespace ConfigSession

/-- Takes the configuration of the environment into force. -/
def adopt (s : ConfigSession) : Except Failure (Nat × Config) × ConfigSession :=
  match Config.ofEnvironment s.environment with
  | .error f => (.error f, s)
  | .ok c =>
    (.ok (s.loadings, c), { s with current := some (s.loadings, c), loadings := s.loadings + 1 })

/-- The configuration in force; the first use loads it. -/
def get (s : ConfigSession) : Except Failure (Nat × Config) × ConfigSession :=
  match s.current with
  | some c => (.ok c, s)
  | none => s.adopt

/-- Loads the configuration anew, with a file of variables. -/
def load (file : Option String) (s : ConfigSession) : Except Failure (Nat × Config) × ConfigSession :=
  adopt { s with environment := Config.withEnvFile file s.files s.environment }

def reset (s : ConfigSession) : ConfigSession := { s with current := none }

def modify (change : Config → Config) (s : ConfigSession) : Except Failure Unit × ConfigSession :=
  match s.get with
  | (.error f, s) => (.error f, s)
  | (.ok (n, c), s) => (.ok (), { s with current := some (n, change c) })

end ConfigSession
end Automation
