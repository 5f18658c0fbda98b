import Automation.Http.Client
import Automation.Journal.Tape
import Automation.Run.Engine
import Automation.Store.Database

/-!
The surroundings in which executions run for good: a database, a network, a clock, a supply of new ids
and a journal. Every use of the database leaves its note in the journal.
-/
namespace Automation

structure Host where
  database : Database := {}
  /-- The n-th new id. -/
  newId : Nat → String
  /-- How many ids were drawn. -/
  drawn : Nat := 0
  /-- What comes of the n-th request. -/
  network : Nat → Http.Request → Http.Exchange
  /-- How many requests were made. -/
  sent : Nat := 0
  /-- The calls of sessions since they were last looked at. -/
  calls : List Http.SessionCall := []
  now : Instant
  tape : Journal.Tape := {}

/-- A step on a host: it changes the host, and it may fail. -/
abbrev HostM := ExceptT Failure (StateM Host)

namespace Host

def write (record : Journal.Record) (h : Host) : Host := { h with tape := h.tape.write record }

/-- The time; it never stands still. -/
def readClock (h : Host) : Instant × Host := (h.now, { h with now := h.now.later 1 })

def drawId (h : Host) : String × Host := (h.newId h.drawn, { h with drawn := h.drawn + 1 })

def refuse {α : Type} (op : StoreOperation) (fault : StoreFault) (h : Host) : Except Failure α × Host :=
  (.error (op.failure fault), (op.faultNote fault).elim h h.write)

def query {α : Type} (op : StoreOperation) (act : Contents → Except Failure α) (h : Host) :
    Except Failure α × Host :=
  match h.database.withTables op .ok with
  | .ok c => (act c, h)
  | .error fault => h.refuse op fault

/-- Changes the database; a refused change changes nothing. -/
def change (op : StoreOperation) (act : Contents → Except StoreFault Contents) (h : Host) :
    Except Failure Unit × Host :=
  match h.database.withTables op act with
  | .ok c => (.ok (), { h with database := { contents := some c } })
  | .error fault => h.refuse op fault

/-- Writes a note after a change that was made. -/
def noteDone {α : Type} (level : Journal.Level) (message : String) (value : α) :
    Except Failure Unit × Host → Except Failure α × Host
  | (.ok (), h) => (.ok value, h.write (Journal.note level .workflowStore message))
  | (.error f, h) => (.error f, h)

/-- Stores a workflow. One without an id gets a new one, whether it can be stored or not. -/
def createWorkflow (w : Workflow) (h : Host) : Except Failure String × Host :=
  let (id, h) := match w.id with
    | some id => if id = "" then h.drawId else (id, h)
    | none => h.drawId
  let (now, h) := h.readClock
  noteDone .info s!"Stored workflow '{w.name}' with ID: {id}" id
    (h.change .storeWorkflow fun c => c.addWorkflow id w now)

def loadWorkflow (id : String) (h : Host) : Except Failure (Option Workflow) × Host :=
  h.query .loadWorkflow (·.workflow? id)

def listWorkflows (h : Host) : Except Failure (List WorkflowSummary) × Host :=
  match h.query .listWorkflows fun c => .ok c.summaries with
  | (.error f, h) => (.error f, h)
  | (.ok summaries, h) =>
    (.ok summaries, h.write
      (Journal.note .debug .workflowStore s!"Retrieved {summaries.length} workflow summaries"))

def createExecution (workflowId : String) (context : Fields Value) (h : Host) :
    Except Failure Execution × Host :=
  let (id, h) := h.drawId
  let e : Execution := { id, workflowId, context }
  noteDone .info s!"Created execution {id} for workflow {workflowId}" e
    (h.change .createExecution fun c => c.addExecution (Contents.rowOf e))

/-- Puts a row with any status into the table of executions. -/
def insertRow (row : ExecutionRow) (h : Host) : Except Failure Unit × Host :=
  match h.database.withTables .createExecution fun c => c.addExecution row with
  | .ok c => (.ok (), { h with database := { contents := some c } })
  | .error fault => (.error (.reported fault.kind fault.text), h)

def loadExecution (id : String) (h : Host) : Except Failure (Option Execution) × Host :=
  h.query .loadExecution fun c => (c.execution? id).mapM ExecutionRow.toExecution

def saveExecution (e : Execution) (h : Host) : Except Failure Unit × Host :=
  noteDone .debug s!"Saved execution {e.id} with status {e.status.text}" ()
    (h.change .saveExecution fun c => c.putExecution e)

def appendLog (entry : LogEntry) (h : Host) : Except Failure Unit × Host :=
  let (now, h) := h.readClock
  h.change .appendLog fun c => c.addLog entry now

def listLog (id : String) (h : Host) : Except Failure (List LogEntry) × Host :=
  h.query .listLog (·.logOf id)

def send (request : Http.Request) (h : Host) : Except Failure Http.Response × Host :=
  let exchange := h.network h.sent request
  let h := match exchange.record with
    | some record => h.write record
    | none => h
  (exchange.answer, { h with
    sent := h.sent + (if exchange.call.isSome then 1 else 0)
    calls := h.calls ++ exchange.call.toList })

def answer : Answerer Host
  | .loadExecution id, h => h.loadExecution id
  | .saveExecution e, h => h.saveExecution e
  | .loadWorkflow id, h => h.loadWorkflow id
  | .appendLog entry, h => h.appendLog entry
  | .send request, h => h.send request
  | .readClock, h => h.readClock
  | .write record, h => ((), h.write record)
  | .enterContext fields, h => ((), { h with tape := h.tape.enter fields })
  | .leaveContext, h => ((), { h with tape := h.tape.leave })

def run (settings : EngineSettings) (id : String) (h : Host) :
    Except Failure (Option Execution) × Host :=
  (runExecution settings id).run answer h

/-- What the journal says about an indexing that failed. -/
def indexFaultNote (fault : StoreFault) : Journal.Record :=
  Journal.note .error .migrations s!"Failed to create database indexes: {fault.text}"

/-- Makes the indexes and tunes the database; one that is a file is tuned for runs side by side. -/
def migrate (inFile : Bool) (h : Host) : Except Failure Unit × Host :=
  let say (message : String) (h : Host) : Host := h.write (Journal.note .info .migrations message)
  let h := say "Running database migrations..." h
  match h.database.createIndexes with
  | .error fault => (.error (.reported "OperationalError" fault.text), h.write (indexFaultNote fault))
  | .ok database =>
    let h := say "Successfully created database indexes" { h with database }
    let h := if inFile then say "Applied SQLite optimizations" h else h
    (.ok (), say "Database migrations completed successfully" h)

end Host
end Automation
