import Automation.Instant
import Automation.Value.Basic

/-!
Executions, one per run of a workflow, and the entries that a run leaves in their log.
-/
namespace Automation

inductive Status where
  | pending
  | running
  | completed
  | failed
  deriving DecidableEq, Repr, Inhabited

namespace Status

def text : Status → String
  | .pending => "pending"
  | .running => "running"
  | .completed => "completed"
  | .failed => "failed"

def all : List Status := [.pending, .running, .completed, .failed]

def ofText? (s : String) : Option Status := all.find? (·.text == s)

def isTerminal : Status → Bool
  | .completed | .failed => true
  | _ => false

end Status

structure Execution where
  id : String
  workflowId : String
  status : Status := .pending
  /-- What the client sent along. -/
  context : Fields Value := []
  /-- The outputs of all nodes, where the engine keeps them. -/
  outputs : Option (Fields Value) := none
  startedAt : Option Instant := none
  endedAt : Option Instant := none
  deriving Inhabited

inductive LogSeverity where
  | success
  | error
  | info
  deriving DecidableEq, Repr, Inhabited

namespace LogSeverity

def text : LogSeverity → String
  | .success => "success"
  | .error => "error"
  | .info => "info"

def all : List LogSeverity := [.success, .error, .info]

end LogSeverity

structure LogEntry where
  executionId : String
  nodeId : Option String := none
  severity : LogSeverity
  message : String
  data : Fields Value := []
  /-- Given by the store that keeps the entry. -/
  createdAt : Option Instant := none
  deriving Inhabited

end Automation
