import Automation.CommandLine.Grammar
import Automation.Config.Environment

/-!
What can be asked of the program on its command line: settings that go before those of the environment,
and one command. A setting that is given but empty or zero changes nothing.
-/
namespace Automation.CommandLine

inductive DatabaseTask where
  | setUp
  | reset
  deriving DecidableEq, Repr, Inhabited

inductive ConfigTask where
  | display
  | validate
  deriving DecidableEq, Repr, Inhabited

/-- The commands. Two of them need a task, which may be absent. -/
inductive Command where
  | serve
  | database (task : Option DatabaseTask)
  | execute (id : String)
  | config (task : Option ConfigTask)
  deriving DecidableEq, Repr, Inhabited

structure Arguments where
  host : Option String := none
  port : Option Int := none
  reload : Bool := false
  /-- The name of a ready set of settings. -/
  preset : Option String := none
  /-- The file of variables. -/
  configFile : Option String := none
  databaseUrl : Option String := none
  logLevel : Option Journal.Level := none
  logFile : Option String := none
  debug : Bool := false
  maxConcurrentExecutions : Option Int := none
  persistOutputs : Bool := false
  command : Command := .serve
  deriving DecidableEq, Repr, Inhabited

def textRule (name : String) (set : String → Arguments → Arguments) : Rule Arguments :=
  ⟨name, .value fun word => .ok (set word)⟩

def integerRule (name : String) (set : Int → Arguments → Arguments) : Rule Arguments :=
  ⟨name, .value fun word =>
    match integerSetting word with
    | .ok n => .ok (set n)
    | .error _ => .error (.notInteger word)⟩

def wordRule (name : String) (words : List String) (set : String → Arguments → Arguments) :
    Rule Arguments :=
  ⟨name, .value fun word =>
    if words.contains word then .ok (set word) else .error (.notAmong word words)⟩

def switchRule (name : String) (set : Arguments → Arguments) : Rule Arguments := ⟨name, .switch set⟩

def presetNames : List String := ["development", "production", "testing"]

def optionRules : List (Rule Arguments) :=
  [textRule "--host" fun host a => { a with host := some host },
    integerRule "--port" fun port a => { a with port := some port },
    switchRule "--reload" fun a => { a with reload := true },
    wordRule "--env" presetNames fun preset a => { a with preset := some preset },
    textRule "--config" fun file a => { a with configFile := some file },
    textRule "--database-url" fun url a => { a with databaseUrl := some url },
    wordRule "--log-level" (Config.logLevels.map Journal.Level.name) fun word a =>
      { a with logLevel := Journal.Level.ofName? word },
    textRule "--log-file" fun file a => { a with logFile := some file },
    switchRule "--debug" fun a => { a with debug := true },
    integerRule "--max-concurrent-executions" fun n a =>
      { a with maxConcurrentExecutions := some n },
    switchRule "--persist-outputs" fun a => { a with persistOutputs := true }]

def plainBranch (name : String) (command : Command) :
    String × (Arguments → Arguments) × Grammar Arguments :=
  (name, fun a => { a with command }, .argument none)

def databaseGrammar : Grammar Arguments :=
  .commands [] "db_command"
    [plainBranch "init" (.database (some .setUp)), plainBranch "reset" (.database (some .reset))]

def configGrammar : Grammar Arguments :=
  .commands [] "config_command"
    [plainBranch "show" (.config (some .display)), plainBranch "validate" (.config (some .validate))]

def grammar : Grammar Arguments :=
  .commands optionRules "command"
    [plainBranch "serve" .serve,
      ("db", fun a => { a with command := .database none }, databaseGrammar),
      ("execute", id, .argument (some ("execution_id", fun id a => { a with command := .execute id }))),
      ("config", fun a => { a with command := .config none }, configGrammar)]

def programName : String := "flowengine"

namespace Arguments

def read (words : List String) : Except Stop Arguments := grammar.read programName {} words

/-- The text of a setting, if it is given and not empty. -/
def nonempty (text : Option String) : Option String := text.filter (· != "")

/-- The number of a setting, if it is given and not zero. -/
def nonzero (n : Option Int) : Option Int := n.filter (· != 0)

/-- Puts the settings of the command line in front of others. They are not checked again. -/
def override (a : Arguments) (c : Config) : Config :=
  { c with
    host := (nonempty a.host).getD c.host
    port := (nonzero a.port).getD c.port
    reload := a.reload || c.reload
    databaseUrl := (nonempty a.databaseUrl).getD c.databaseUrl
    logLevel := a.logLevel.getD c.logLevel
    logFile := match nonempty a.logFile with
      | some path => some path
      | none => c.logFile
    debug := a.debug || c.debug
    maxConcurrentExecutions := (nonzero a.maxConcurrentExecutions).getD c.maxConcurrentExecutions
    persistOutputs := a.persistOutputs || c.persistOutputs }

/-- The settings that the command line starts from: a ready set, or those of the environment. -/
def base (a : Arguments) (env : Environment) (files : FileTree) : Except Failure Config :=
  match a.preset.bind Config.preset? with
  | some c => .ok c
  | none => Config.ofEnvironment (Config.withEnvFile a.configFile files env)

/-- The configuration that a command line and an environment give. -/
def configuration (a : Arguments) (env : Environment) (files : FileTree) : Except Failure Config :=
  (a.base env files).map a.override

end Arguments
end Automation.CommandLine
