import Automation.Journal.Tape
import Automation.Run.Engine

/-!
A rehearsal: stores, a log and a network in memory, which answer by a script. The script says what the
network replies and which calls fail, counted over the whole rehearsal.
-/
namespace Automation

/-- The points at which a store can be made to fail: when it loads, before a record is saved, and
after it was saved. -/
inductive FaultPoint where
  | loadExecution
  | loadWorkflow
  | beforeSave
  | afterSave
  deriving DecidableEq, Repr

namespace FaultPoint

def name : FaultPoint → String
  | .loadExecution => "exec_load"
  | .loadWorkflow => "wf_load"
  | .beforeSave => "save_before"
  | .afterSave => "save_after"

def all : List FaultPoint := [.loadExecution, .loadWorkflow, .beforeSave, .afterSave]

def failure (p : FaultPoint) : Failure := .reported "RuntimeError" s!"{p.name} fault"

end FaultPoint

abbrev Reply := Except Failure Http.Response

def plainReply : Reply :=
  .ok ⟨200, .dict [("ok", .bool true)], [("content-type", .str "application/json")]⟩

/-- What is to happen: the replies in order, the appends that fail and the faults of the stores, by
number from one. -/
structure Script where
  replies : List Reply := []
  appendFails : Nat → Bool := fun _ => false
  faults : FaultPoint → List Nat := fun _ => []

structure Passed where
  loadExecution : Nat := 0
  loadWorkflow : Nat := 0
  beforeSave : Nat := 0
  afterSave : Nat := 0
  deriving DecidableEq, Repr, Inhabited

namespace Passed

def count (p : Passed) : FaultPoint → Nat
  | .loadExecution => p.loadExecution
  | .loadWorkflow => p.loadWorkflow
  | .beforeSave => p.beforeSave
  | .afterSave => p.afterSave

def step (p : Passed) : FaultPoint → Passed
  | .loadExecution => { p with loadExecution := p.loadExecution + 1 }
  | .loadWorkflow => { p with loadWorkflow := p.loadWorkflow + 1 }
  | .beforeSave => { p with beforeSave := p.beforeSave + 1 }
  | .afterSave => { p with afterSave := p.afterSave + 1 }

end Passed

structure Rehearsal where
  script : Script
  executions : Fields Execution := []
  workflows : Fields Workflow := []
  /-- The entries that the log has stored. -/
  log : List LogEntry := []
  /-- How many entries the log was given, stored or not. -/
  attempts : Nat := 0
  /-- The statuses that were saved, in order. -/
  saved : List Status := []
  requests : List Http.Request := []
  /-- How many requests were made so far. -/
  sent : Nat := 0
  passed : Passed := {}
  tape : Journal.Tape := {}
  now : Instant

namespace Rehearsal

/-- Stores in memory, filled. A record replaces one with the same id; a workflow without an id cannot
be found. -/
def start (script : Script) (workflows : List Workflow) (executions : List Execution)
    (now : Instant) : Rehearsal where
  script := script
  executions := executions.foldl (fun es e => Fields.insert e.id e es) []
  workflows := workflows.foldl (fun ws w =>
    match w.id with
    | some id => Fields.insert id w ws
    | none => ws) []
  now := now

/-- Passes a point: the rehearsal after it, and the failure if there is to be one. -/
def pass (p : FaultPoint) (r : Rehearsal) : Option Failure × Rehearsal :=
  let passed := r.passed.step p
  let fails := (r.script.faults p).contains (passed.count p)
  (if fails then some p.failure else none, { r with passed := passed })

def loadExecution (id : String) (r : Rehearsal) : Except Failure (Option Execution) × Rehearsal :=
  match r.pass .loadExecution with
  | (some failure, r) => (.error failure, r)
  | (none, r) => (.ok (r.executions.get? id), r)

def loadWorkflow (id : String) (r : Rehearsal) : Except Failure (Option Workflow) × Rehearsal :=
  match r.pass .loadWorkflow with
  | (some failure, r) => (.error failure, r)
  | (none, r) => (.ok (r.workflows.get? id), r)

def saveExecution (e : Execution) (r : Rehearsal) : Except Failure Unit × Rehearsal :=
  match r.pass .beforeSave with
  | (some failure, r) => (.error failure, r)
  | (none, r) =>
    let r := { r with
      executions := Fields.insert e.id e r.executions
      saved := r.saved ++ [e.status] }
    match r.pass .afterSave with
    | (some failure, r) => (.error failure, r)
    | (none, r) => (.ok (), r)

def logFailure : Failure := .reported "RuntimeError" "log storage unavailable"

def appendLog (entry : LogEntry) (r : Rehearsal) : Except Failure Unit × Rehearsal :=
  let r := { r with attempts := r.attempts + 1 }
  if r.script.appendFails r.attempts then (.error logFailure, r)
  else (.ok (), { r with log := r.log ++ [entry] })

def send (request : Http.Request) (r : Rehearsal) : Reply × Rehearsal :=
  (r.script.replies.getD r.sent plainReply,
    { r with requests := r.requests ++ [request], sent := r.sent + 1 })

def answer : Answerer Rehearsal
  | .loadExecution id, r => r.loadExecution id
  | .saveExecution e, r => r.saveExecution e
  | .loadWorkflow id, r => r.loadWorkflow id
  | .appendLog entry, r => r.appendLog entry
  | .send request, r => r.send request
  | .readClock, r => (r.now, r)
  | .write record, r => ((), { r with tape := r.tape.write record })
  | .enterContext fields, r => ((), { r with tape := r.tape.enter fields })
  | .leaveContext, r => ((), { r with tape := r.tape.leave })

def records (r : Rehearsal) : List Execution :=
  (r.executions.map Prod.snd).mergeSort fun a b => Graph.precedes a.id b.id

end Rehearsal
end Automation
