import Automation.Failure

/-!
Records of the program's own journal: how grave, from which part of the program, and what is said.
The journal is for those who operate the program; the log of an execution is for those who wrote the
workflow.
-/
namespace Automation.Journal

inductive Level where
  | notSet
  | debug
  | info
  | warning
  | error
  | critical
  deriving DecidableEq, Repr, Inhabited

namespace Level

def name : Level → String
  | .notSet => "NOTSET"
  | .debug => "DEBUG"
  | .info => "INFO"
  | .warning => "WARNING"
  | .error => "ERROR"
  | .critical => "CRITICAL"

/-- The rank of a level; records below a threshold are dropped. -/
def rank : Level → Nat
  | .notSet => 0
  | .debug => 10
  | .info => 20
  | .warning => 30
  | .error => 40
  | .critical => 50

/-- The level that a word in capitals names; two levels have a second name. -/
def ofName? (s : String) : Option Level :=
  match s with
  | "NOTSET" => some .notSet
  | "DEBUG" => some .debug
  | "INFO" => some .info
  | "WARNING" | "WARN" => some .warning
  | "ERROR" => some .error
  | "CRITICAL" | "FATAL" => some .critical
  | _ => none

end Level

inductive Source where
  | engine
  | handlers
  | dispatcher
  | transport
  | middleware
  | endpoints
  | workflowStore
  | migrations
  | startup
  | application
  deriving DecidableEq, Repr

/-- The name of a part: words from the general to the particular, with dots between them. -/
def Source.name : Source → String
  | .engine => "flowengine.core.interpreter"
  | .handlers => "flowengine.core.handlers"
  | .dispatcher => "flowengine.core.dispatcher"
  | .transport => "flowengine.core.transport"
  | .middleware => "flowengine.core.middleware"
  | .endpoints => "flowengine.api.endpoints"
  | .workflowStore => "flowengine.storage.repositories"
  | .migrations => "flowengine.storage.migrations"
  | .startup => "flowengine.startup"
  | .application => "root"

structure Record where
  level : Level
  source : String
  message : String
  /-- The failure that the record is about, where it is reported with its origin. -/
  failure : Option Failure := none
  /-- Fields of the record itself; those in force come on top of them. -/
  extra : Fields Value := []
  deriving Inhabited

def note (level : Level) (source : Source) (message : String) : Record :=
  { level, source := source.name, message }

end Automation.Journal
