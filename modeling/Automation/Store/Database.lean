import Automation.Document.Record
import Automation.Journal.Record
import Automation.Stack
import Automation.Value.Equality
import Automation.Value.Text

/-!
The database: workflows in three tables, executions and logs. A workflow is written once and never changed,
its nodes and edges numbered in the order in which it has them; an execution is one row that is written
over, and a log only grows. Data stands in its columns as text. All tables exist or none does.
-/
namespace Automation

/-- The tables that hold records of their own. -/
inductive Table where
  | workflows
  | nodes
  | edges
  | executions
  | logs
  deriving DecidableEq, Repr, Inhabited

namespace Table

def name : Table → String
  | .workflows => "workflows"
  | .nodes => "workflow_nodes"
  | .edges => "workflow_edges"
  | .executions => "workflow_executions"
  | .logs => "workflow_logs"

def all : List Table := [.workflows, .nodes, .edges, .executions, .logs]

/-- The index that speeds up the lookups in a table, where it has one. -/
def index? : Table → Option String
  | .workflows => none
  | .nodes => some "idx_workflow_nodes_workflow_position"
  | .edges => some "idx_workflow_edges_workflow_position"
  | .executions => some "idx_workflow_executions_workflow_status"
  | .logs => some "idx_workflow_logs_execution"

end Table

inductive StoreOperation where
  | storeWorkflow
  | loadWorkflow
  | listWorkflows
  | createExecution
  | loadExecution
  | saveExecution
  | appendLog
  | listLog
  deriving DecidableEq, Repr, Inhabited

namespace StoreOperation

def text : StoreOperation → String
  | .storeWorkflow => "store workflow"
  | .loadWorkflow => "load workflow"
  | .listWorkflows => "list workflows"
  | .createExecution => "create execution"
  | .loadExecution => "load execution"
  | .saveExecution => "save execution"
  | .appendLog => "append log entry"
  | .listLog => "list log entries"

def table : StoreOperation → Table
  | .storeWorkflow | .loadWorkflow | .listWorkflows => .workflows
  | .createExecution | .loadExecution | .saveExecution => .executions
  | .appendLog | .listLog => .logs

end StoreOperation

/-- Why the database refuses an operation. -/
inductive StoreFault where
  | noTable (table : Table)
  | duplicate (table : Table)
  /-- Data with an integer that is too long to be written. -/
  | longInteger
  /-- Data that is nested too deep to be written. -/
  | deepData
  deriving DecidableEq, Repr, Inhabited

namespace StoreFault

def ofData? (fields : Fields Value) : Option StoreFault :=
  if Stack.column < (Value.dict fields).depth then some .deepData
  else if (Value.dict fields).isWritable then none
  else some .longInteger

/-- The name under which a fault is reported by those who do not wrap it. -/
def kind : StoreFault → String
  | .noTable _ => "OperationalError"
  | .duplicate _ => "IntegrityError"
  | .longInteger | .deepData => "StatementError"

def text : StoreFault → String
  | .noTable table => s!"no such table: {table.name}"
  | .duplicate table => s!"UNIQUE constraint failed: {table.name}.id"
  | .longInteger => Failure.unwritableInteger.text
  | .deepData => Failure.writtenTooDeep.text

/-- Data that cannot be written cannot be shown in a message either; that is a failure of its own. -/
def unshown? : StoreFault → Option Failure
  | .noTable _ | .duplicate _ => none
  | .longInteger => some .unwritableInteger
  | .deepData => some .shownTooDeep

end StoreFault

namespace StoreOperation

def failure (op : StoreOperation) (fault : StoreFault) : Failure :=
  fault.unshown?.getD
    (.engine (({ kind := .storage, message := s!"Failed to {op.text}: {fault.text}" } : EngineError).note
      [("operation", .str op.text), ("table", .str op.table.name)]))

/-- What the journal says about a refused operation, if the fault can be shown. -/
def faultNote (op : StoreOperation) (fault : StoreFault) : Option Journal.Record :=
  if fault.unshown?.isSome then none
  else some (Journal.note .error .workflowStore
    s!"Database error during {op.text} on {op.table.name}: {fault.text}")

end StoreOperation

/-- A record made from a row, which is checked like one from a document. -/
def Document.Checked.made {α : Type} (record : String) (checked : Checked α) : Except Failure α :=
  checked.toExcept.mapError (.invalid record)

/-- A workflow in the database, but for its nodes and edges. -/
structure WorkflowRow where
  id : String
  name : String
  description : Option String
  createdAt : Instant
  deriving Inhabited

structure NodeRow where
  workflow : String
  node : String
  type : String
  name : Option String
  settings : Value
  /-- The place of the node in its workflow. -/
  position : Nat
  deriving Inhabited

namespace NodeRow

def ofNode (workflow : String) (position : Nat) (n : Node) : NodeRow :=
  ⟨workflow, n.id, n.type, some n.name, .dict n.settings, position⟩

def toNode (row : NodeRow) : Except Failure Node :=
  (Document.readNode [("id", .str row.node), ("type", .str row.type), ("name", .str (row.name.getD "")),
    ("settings", row.settings)]).made "WorkflowNode"

end NodeRow

/-- An edge of a stored workflow. Its ends need not be nodes. -/
structure EdgeRow where
  workflow : String
  source : String
  target : String
  label : Option String
  /-- The place of the edge in its workflow. -/
  position : Nat
  deriving Inhabited

namespace EdgeRow

def ofEdge (workflow : String) (position : Nat) (e : Edge) : EdgeRow :=
  ⟨workflow, e.source, e.target, e.label, position⟩

def toEdge (row : EdgeRow) : Except Failure Edge :=
  (Document.readEdge [("source_node_id", .str row.source), ("target_node_id", .str row.target),
    ("label", Document.optionText row.label)]).made "WorkflowEdge"

end EdgeRow

/-- An execution in the database. Its status is any text, and its times have no zone. -/
structure ExecutionRow where
  id : String
  workflowId : String
  status : String
  context : Option (Fields Value) := none
  outputs : Option (Fields Value) := none
  startedAt : Option Instant := none
  endedAt : Option Instant := none
  deriving Inhabited

namespace ExecutionRow

/-- The execution that a row holds, if its status is one. -/
def toExecution (row : ExecutionRow) : Except Failure Execution :=
  match Status.ofText? row.status with
  | some status =>
    .ok ⟨row.id, row.workflowId, status, row.context.getD [], row.outputs, row.startedAt, row.endedAt⟩
  | none => .error (.notMember row.status "ExecutionStatusEnum")

def fault? (row : ExecutionRow) : Option StoreFault :=
  (row.context.toList ++ row.outputs.toList).findSome? StoreFault.ofData?

end ExecutionRow

structure LogRow where
  /-- Given by the database. -/
  key : Nat
  executionId : String
  nodeId : Option String
  severity : String
  message : String
  data : Option (Fields Value)
  createdAt : Option Instant
  deriving Inhabited

namespace LogRow

def ofEntry (key : Nat) (entry : LogEntry) (now : Instant) : LogRow where
  key
  executionId := entry.executionId
  nodeId := entry.nodeId
  severity := entry.severity.text
  message := entry.message
  data := some entry.data
  createdAt := some (entry.createdAt.getD now).zoneless

/-- The entry that a row holds, if its severity is one. -/
def toEntry (row : LogRow) : Except Failure LogEntry :=
  let severity := Document.Check.oneOf LogSeverity.all LogSeverity.text (.str row.severity)
  ((severity.under (.field "severity")).map fun severity =>
    ⟨row.executionId, row.nodeId, severity, row.message, row.data.getD [], row.createdAt⟩).made "LogEntry"

end LogRow

structure Contents where
  workflows : List WorkflowRow := []
  nodes : List NodeRow := []
  edges : List EdgeRow := []
  executions : Fields ExecutionRow := []
  log : List LogRow := []
  /-- Whether the tables have their indexes. -/
  indexed : Bool := false
  deriving Inhabited

/-- A database; without contents it has no tables. -/
structure Database where
  contents : Option Contents := none
  deriving Inhabited

namespace Contents

/-- The rows that belong to a workflow, by their places in it. -/
def rowsOf {ρ : Type} (owner : ρ → String) (place : ρ → Nat) (rows : List ρ) (id : String) : List ρ :=
  (rows.filter (owner · == id)).mergeSort fun a b => place a ≤ place b

def nodesOf (c : Contents) : String → List NodeRow := rowsOf (·.workflow) (·.position) c.nodes

def edgesOf (c : Contents) : String → List EdgeRow := rowsOf (·.workflow) (·.position) c.edges

/-- The workflow with an id, put together from its rows. It is checked like a new one. -/
def workflow? (c : Contents) (id : String) : Except Failure (Option Workflow) :=
  match c.workflows.find? (·.id == id) with
  | none => .ok none
  | some row => do
    let nodes ← (c.nodesOf id).mapM NodeRow.toNode
    let edges ← (c.edgesOf id).mapM EdgeRow.toEdge
    let name ← ((Document.workflowName row.name).under (.field "name")).made "Workflow"
    .ok (some { id := some row.id, name, description := row.description, nodes, edges })

/-- Stores a workflow under an id that is not in use. -/
def addWorkflow (c : Contents) (id : String) (w : Workflow) (now : Instant) :
    Except StoreFault Contents :=
  if c.workflows.any (·.id == id) then .error (.duplicate .workflows)
  else match w.nodes.findSome? (StoreFault.ofData? ·.settings) with
    | some fault => .error fault
    | none => .ok { c with
        workflows := c.workflows ++ [⟨id, w.name, w.description, now⟩]
        nodes := c.nodes ++ w.nodes.mapIdx (NodeRow.ofNode id)
        edges := c.edges ++ w.edges.mapIdx (EdgeRow.ofEdge id) }

def nodeCounts (c : Contents) : Fields Nat :=
  c.nodes.foldl (fun counts row =>
    Fields.insert row.workflow ((counts.get? row.workflow).getD 0 + 1) counts) []

/-- The summaries of all workflows, the newest first. -/
def summaries (c : Contents) : List WorkflowSummary :=
  let counts := c.nodeCounts
  (c.workflows.mergeSort fun a b => b.createdAt.microseconds ≤ a.createdAt.microseconds).map fun row =>
    { id := row.id, name := row.name, description := row.description.getD ""
      createdAt := some row.createdAt, nodeCount := ((counts.get? row.id).getD 0 : Nat) }

def execution? (c : Contents) (id : String) : Option ExecutionRow := c.executions.get? id

/-- Writes a row in the place of the one with its id, or behind all others. -/
def setExecution (c : Contents) (row : ExecutionRow) : Except StoreFault Contents :=
  match row.fault? with
  | some fault => .error fault
  | none => .ok { c with executions := Fields.insert row.id row c.executions }

/-- Adds a row under an id that is not in use. -/
def addExecution (c : Contents) (row : ExecutionRow) : Except StoreFault Contents := do
  let added ← c.setExecution row
  if (c.execution? row.id).isSome then .error (.duplicate .executions) else .ok added

/-- A column of data after a write: what equals the data in it already is left as it is. -/
def written (stored new : Option (Fields Value)) : Option (Fields Value) :=
  match stored, new with
  | some old, some fields => if (Value.dict old).equal (.dict fields) then stored else new
  | _, _ => new

def rowOf (e : Execution) : ExecutionRow where
  id := e.id
  workflowId := e.workflowId
  status := e.status.text
  context := some e.context
  outputs := e.outputs
  startedAt := e.startedAt.map Instant.zoneless
  endedAt := e.endedAt.map Instant.zoneless

/-- An execution as a row that takes the place of another one. -/
def rowOver (old : ExecutionRow) (e : Execution) : ExecutionRow :=
  { rowOf e with
    context := written old.context (some e.context)
    outputs := written old.outputs e.outputs }

/-- Writes an execution over the row with its id, or as a new row. -/
def putExecution (c : Contents) (e : Execution) : Except StoreFault Contents :=
  c.setExecution <| match c.execution? e.id with
    | some old => rowOver old e
    | none => rowOf e

/-- The key of the next row of the log, greater than those of all others. -/
def nextKey (c : Contents) : Nat := (c.log.map (·.key)).foldr max 0 + 1

/-- Adds an entry to the log; one without a time gets the time of the writing. -/
def addLog (c : Contents) (entry : LogEntry) (now : Instant) : Except StoreFault Contents :=
  match StoreFault.ofData? entry.data with
  | some fault => .error fault
  | none => .ok { c with log := c.log ++ [.ofEntry c.nextKey entry now] }

/-- The entries of an execution, in the order of their keys. -/
def logOf (c : Contents) (id : String) : Except Failure (List LogEntry) :=
  ((c.log.filter (·.executionId == id)).mergeSort fun a b => a.key ≤ b.key).mapM LogRow.toEntry

end Contents

namespace Database

/-- An operation on the contents of a database, which needs the tables. -/
def withTables {α : Type} (d : Database) (op : StoreOperation)
    (act : Contents → Except StoreFault α) : Except StoreFault α :=
  match d.contents with
  | some c => act c
  | none => .error (.noTable op.table)

/-- Makes the tables that are missing. -/
def createTables (d : Database) : Database := { contents := some (d.contents.getD {}) }

def dropTables (_ : Database) : Database := {}

def createIndexes (d : Database) : Except StoreFault Database :=
  match d.contents with
  | some c => .ok { contents := some { c with indexed := true } }
  | none => .error (.noTable .nodes)

def indexes (d : Database) : Fields (List String) :=
  match d.contents with
  | none => []
  | some c => Table.all.map fun t => (t.name, if c.indexed then t.index?.toList else [])

end Database
end Automation
