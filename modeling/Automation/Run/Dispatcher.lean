import Automation.Run.Engine

/-!
The dispatcher takes executions and runs them on a bounded number of workers. It knows which ids are
active: submitted, and not yet finished. Once shut down it takes nothing more, but what it has taken
is still run.
-/
namespace Automation

structure Dispatcher where
  maxWorkers : Int
  /-- The ids submitted and not yet forgotten, in order. -/
  active : List String := []
  isShutDown : Bool := false
  deriving DecidableEq, Repr, Inhabited

structure DispatcherStatus where
  activeExecutions : Nat
  maxWorkers : Int
  availableSlots : Int
  deriving DecidableEq, Repr

namespace Dispatcher

/-- A dispatcher with at least one worker. -/
def create (maxWorkers : Int) : Except Failure Dispatcher :=
  if maxWorkers ≤ 0 then .error (.reported "ValueError" "max_workers must be greater than 0")
  else .ok { maxWorkers := maxWorkers }

def createdNote (d : Dispatcher) : Journal.Record :=
  Journal.note .info .dispatcher s!"ExecutionDispatcher initialized with max_workers={d.maxWorkers}"

def submittedNote (id : String) : Journal.Record :=
  Journal.note .info .dispatcher s!"Dispatched execution {id}"

def shutDownNote : Journal.Record :=
  Journal.note .info .dispatcher "ExecutionDispatcher shutdown completed"

def refusal (id : String) : Failure :=
  .engine (({ kind := .executionEngine, message := "Dispatcher is shut down" } : EngineError).note
    [("execution_id", .str id)])

/-- Takes an execution. Whoever takes it has it run by `runGuarded`. -/
def submit (d : Dispatcher) (id : String) : Except Failure Dispatcher :=
  if d.isShutDown then .error (refusal id)
  else .ok { d with active := if d.active.contains id then d.active else d.active ++ [id] }

def forget (d : Dispatcher) (id : String) : Dispatcher := { d with active := d.active.erase id }

def shutDown (d : Dispatcher) : Dispatcher := { d with isShutDown := true }

def status (d : Dispatcher) : DispatcherStatus where
  activeExecutions := d.active.length
  maxWorkers := d.maxWorkers
  availableSlots := max 0 (d.maxWorkers - d.active.length)

end Dispatcher
end Automation
