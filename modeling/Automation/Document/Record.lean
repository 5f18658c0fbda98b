import Automation.Document.Checked
import Automation.Http.Message
import Automation.Run.Execution
import Automation.Workflow.Basic

/-!
The records that documents hold: how each is read from data, and how it is written back with all its
fields. Ids, kinds and names are trimmed when they are read.
-/
namespace Automation.Document

open Automation.Text

/-- Where a document comes from: a caller of the library, or the body of a request. -/
inductive Origin where
  | caller
  | request
  deriving DecidableEq, Repr

def record {α : Type} (origin : Origin) (name : String) (read : Fields Value → Checked α) : Check α
  | .dict fields => read fields
  | v =>
    match origin with
    | .caller => .problem (.notRecord name) v
    | .request => .problem .notRequestRecord v

/-- A text that is not blank, trimmed. -/
def nonBlank (message : String) (s : String) : Checked String :=
  ruleFor (.str s) (trim s != "") message (trim s)

def nodeId : String → Checked String := nonBlank "Node ID cannot be empty"

def nodeType : String → Checked String := nonBlank "Node type cannot be empty"

def workflowName : String → Checked String := nonBlank "Workflow name cannot be empty"

/-- Settings; whatever counts as not given is an empty mapping. -/
def nodeSettings : Check (Fields Value) := fun v => if v.isTruthy then Check.mapping v else .good []

def readNode (fields : Fields Value) : Checked Node :=
  Node.mk <$> required fields "id" (fun v => (Check.text v).andThen nodeId)
    <*> required fields "type" (fun v => (Check.text v).andThen nodeType)
    <*> optional fields "name" "" Check.text
    <*> optional fields "settings" [] nodeSettings

def readEdge (fields : Fields Value) : Checked Edge :=
  Edge.mk <$> required fields "source_node_id" Check.text
    <*> required fields "target_node_id" Check.text
    <*> optional fields "label" none (Check.nullable Check.text)

def readWorkflow (origin : Origin) (fields : Fields Value) : Checked Workflow :=
  Workflow.mk <$> optional fields "id" none (Check.nullable Check.text)
    <*> required fields "name" (fun v => (Check.text v).andThen workflowName)
    <*> optional fields "description" none (Check.nullable Check.text)
    <*> optional fields "nodes" [] (Check.list (record origin "WorkflowNode" readNode))
    <*> optional fields "edges" [] (Check.list (record origin "WorkflowEdge" readEdge))

def readSummary (fields : Fields Value) : Checked WorkflowSummary :=
  WorkflowSummary.mk <$> required fields "id" Check.text
    <*> required fields "name" Check.text
    <*> required fields "description" Check.text
    <*> optional fields "created_at" none (Check.nullable Check.time)
    <*> required fields "node_count" Check.integer

def readExecution (fields : Fields Value) : Checked Execution :=
  Execution.mk <$> required fields "id" Check.text
    <*> required fields "workflow_id" Check.text
    <*> optional fields "status" .pending (Check.oneOf Status.all Status.text)
    <*> optional fields "context" [] Check.mapping
    <*> optional fields "outputs" none (Check.nullable Check.mapping)
    <*> optional fields "started_at" none (Check.nullable Check.time)
    <*> optional fields "ended_at" none (Check.nullable Check.time)

def readLogEntry (fields : Fields Value) : Checked LogEntry :=
  LogEntry.mk <$> required fields "execution_id" Check.text
    <*> optional fields "node_id" none (Check.nullable Check.text)
    <*> required fields "severity" (Check.oneOf LogSeverity.all LogSeverity.text)
    <*> required fields "message" Check.text
    <*> optional fields "data" [] Check.mapping
    <*> optional fields "created_at" none (Check.nullable Check.time)

def readResponse (fields : Fields Value) : Checked Http.Response :=
  Http.Response.mk <$> required fields "status" Check.integer
    <*> optional fields "body" .null Check.any
    <*> optional fields "headers" [] Check.mapping

/-- The outcome of a graph's checks, as it is passed around. -/
structure Report where
  isValid : Bool
  errors : List String
  warnings : List String
  deriving DecidableEq, Repr

def readReport (fields : Fields Value) : Checked Report :=
  Report.mk <$> required fields "is_valid" Check.truth
    <*> optional fields "errors" [] (Check.list Check.text)
    <*> optional fields "warnings" [] (Check.list Check.text)

def optionText : Option String → Value
  | some s => .str s
  | none => .null

def optionTime : Option Instant → Value
  | some t => .str t.isoText
  | none => .null

def nodeValue (n : Node) : Value :=
  .dict [("id", .str n.id), ("type", .str n.type), ("name", .str n.name),
    ("settings", .dict n.settings)]

def edgeValue (e : Edge) : Value :=
  .dict [("source_node_id", .str e.source), ("target_node_id", .str e.target),
    ("label", optionText e.label)]

def workflowValue (w : Workflow) : Value :=
  .dict [("id", optionText w.id), ("name", .str w.name), ("description", optionText w.description),
    ("nodes", .list (w.nodes.map nodeValue)), ("edges", .list (w.edges.map edgeValue))]

def summaryValue (s : WorkflowSummary) : Value :=
  .dict [("id", .str s.id), ("name", .str s.name), ("description", .str s.description),
    ("created_at", optionTime s.createdAt), ("node_count", .int s.nodeCount)]

def executionValue (e : Execution) : Value :=
  .dict [("id", .str e.id), ("workflow_id", .str e.workflowId), ("status", .str e.status.text),
    ("context", .dict e.context),
    ("outputs", match e.outputs with
      | some outputs => .dict outputs
      | none => .null),
    ("started_at", optionTime e.startedAt), ("ended_at", optionTime e.endedAt)]

def logEntryValue (e : LogEntry) : Value :=
  .dict [("execution_id", .str e.executionId), ("node_id", optionText e.nodeId),
    ("severity", .str e.severity.text), ("message", .str e.message), ("data", .dict e.data),
    ("created_at", optionTime e.createdAt)]

def responseValue (r : Http.Response) : Value :=
  .dict [("status", .int r.status), ("body", r.body), ("headers", .dict r.headers)]

def reportValue (r : Report) : Value :=
  .dict [("is_valid", .bool r.isValid), ("errors", .ofStrings r.errors),
    ("warnings", .ofStrings r.warnings)]

end Automation.Document
