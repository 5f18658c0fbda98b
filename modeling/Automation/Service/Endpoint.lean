import Automation.Config.Settings
import Automation.Run.Dispatcher
import Automation.Service.Routes
import Automation.Store.Host

/-!
The endpoints of the web service. A service that is started has a dispatcher; the runs that it has taken
are carried out after the answer is given.
-/
namespace Automation.Service

open Document (Check Checked Problem)

structure State where
  config : Config
  host : Host
  /-- Present once the service is started. -/
  dispatcher : Option Dispatcher := none
  /-- The executions taken and not yet run. -/
  taken : List String := []

abbrev Act (α : Type) := State → Except Failure α × State

namespace State

def write (level : Journal.Level) (source : Journal.Source) (message : String) (s : State) : State :=
  { s with host := s.host.write (Journal.note level source message) }

/-- A step on the host of the service. -/
def onHost {α : Type} (act : Host → Except Failure α × Host) (s : State) : Except Failure α × State :=
  let (result, host) := act s.host
  (result, { s with host })

end State

inductive Component where
  | workflowStore
  | executionStore
  | logSink
  | dispatcher
  deriving DecidableEq, Repr

def Component.name : Component → String
  | .workflowStore => "Workflow store"
  | .executionStore => "Execution store"
  | .logSink => "Log sink"
  | .dispatcher => "Execution dispatcher"

/-- The parts that a resource needs, the first that is missing being reported. -/
def components : Resource → List Component
  | .root | .health => []
  | .workflows | .workflow _ => [.workflowStore]
  | .runs _ => [.workflowStore, .executionStore, .dispatcher]
  | .execution _ => [.executionStore]
  | .log _ => [.executionStore, .logSink]
  | .load => [.dispatcher]

def reason (status : Nat) (detail : Value) : Answer := ⟨status, .dict [("detail", detail)]⟩

def notFound : Answer := reason 404 (.str "Not Found")

def wrongMethod : Answer := reason 405 (.str "Method Not Allowed")

def unreadable : Answer := reason 400 (.str "There was an error parsing the body")

/-- The answer of a resource whose parts are missing. -/
def notInitialized (c : Component) : Answer := reason 500 (.str s!"{c.name} not initialized")

def engineAnswer (e : EngineError) (now : Instant) : Answer := reason e.kind.status (e.response now)

def stepValue : Document.Step → Value
  | .field name => .str name
  | .item index => .int index

def problemValue (p : Problem) : Value :=
  .dict [("type", .str p.cause.code), ("loc", .list (.str "body" :: p.path.map stepValue)),
    ("msg", .str p.cause.message), ("input", p.found)]

mutual

/-- Whether all numbers of the data are finite, so that it can be sent. -/
def isSendable : Value → Bool
  | .float x => x.isFinite
  | .list items => areSendable items
  | .dict fields => fieldsAreSendable fields
  | _ => true

def areSendable : List Value → Bool
  | [] => true
  | v :: rest => isSendable v && areSendable rest

def fieldsAreSendable : List (String × Value) → Bool
  | [] => true
  | (_, v) :: rest => isSendable v && fieldsAreSendable rest

end

mutual

/-- The data as it is sent: what is no finite number is null. -/
def sendable : Value → Value
  | .float x => if x.isFinite then .float x else .null
  | .list items => .list (sendableItems items)
  | .dict fields => .dict (sendableFields fields)
  | v => v

def sendableItems : List Value → List Value
  | [] => []
  | v :: rest => sendable v :: sendableItems rest

def sendableFields : List (String × Value) → List (String × Value)
  | [] => []
  | (k, v) :: rest => (k, sendable v) :: sendableFields rest

end

/-- The failure of an answer that cannot be sent. -/
def unsendable : Failure := .reported "ValueError" "Out of range float values are not JSON compliant"

/-- The answer to a body with problems. A problem shows what was found, which has to be sendable. -/
def rejected (problems : List Problem) : Result :=
  if problems.all fun p => isSendable p.found then
    .answered (reason 422 (.list (problems.map problemValue)))
  else .failed unsendable

def malformed (offset : Nat) : Answer :=
  reason 422 (.list [.dict [("type", .str "json_invalid"),
    ("loc", .list [.str "body", .int offset]), ("msg", .str "JSON decode error"),
    ("input", .dict [])]])

/-- The mark that a text may begin with to show its encoding. -/
def byteOrderMark : Char := Char.ofNat 0xFEFF

/-- A body without a mark of its encoding. -/
def unmarked (body : String) : String :=
  match body.toList with
  | c :: rest => if c == byteOrderMark then String.ofList rest else body
  | [] => body

/-- The data of a body: null where there is none. -/
def readBody (body : String) : Except Answer Value :=
  if body = "" then .ok .null
  else match Json.read Stack.request (unmarked body) with
    | .ok v => .ok v
    | .error (.malformed offset) => .error (malformed offset)
    | .error _ => .error unreadable

def missing (resource id : String) : Failure :=
  .engine (({ kind := .notFound
              message := s!"{resource} with ID '{id}' not found" } : EngineError).note
    [("resource", .str (Text.lower resource)), ("resource_id", .str id)])

/-- What the journal says about an id that leads to nothing. -/
def noteMissing (resource id : String) (s : State) : State :=
  s.write .warning .endpoints s!"{resource} not found: {id}"

/-- A step that must find something. -/
def found {α : Type} (resource id : String) (act : Host → Except Failure (Option α) × Host) : Act α :=
  fun s =>
    match s.onHost act with
    | (.error f, s) => (.error f, s)
    | (.ok (some a), s) => (.ok a, s)
    | (.ok none, s) => (.error (missing resource id), noteMissing resource id s)

/-- The answer of a step: engine's errors are answers, other failures go on. -/
def conclude {α : Type} (status : Nat) (show' : α → Value) :
    Except Failure α × State → Result × State
  | (.ok a, s) => (.answered ⟨status, sendable (show' a)⟩, s)
  | (.error (.engine e), s) =>
    let (now, host) := s.host.readClock
    (.answered (engineAnswer e now), { s with host })
  | (.error f, s) => (.failed f, s)

def invalidGraph (w : Workflow) (errors : List String) : Failure :=
  let list := "; ".intercalate errors
  .engine (EngineError.raised .graphValidation s!"Workflow validation failed: {list}" {}
    [("workflow_name", .str w.name), ("validation_errors", .ofStrings errors)])

/-- Stores a workflow whose graph has no errors. -/
def register (w : Workflow) : Act (String × Validation) := fun s =>
  let s := s.write .info .endpoints s!"Registering workflow: {w.name}"
  let validation := (Graph.ofWorkflow w).validate
  let stored : Except Failure String × State :=
    if !validation.isValid then (.error (invalidGraph w validation.errorTexts), s)
    else
      let list := "; ".intercalate validation.warningTexts
      let s := if validation.warnings.isEmpty then s
        else s.write .warning .endpoints s!"Workflow validation warnings: {list}"
      s.onHost (·.createWorkflow w)
  match stored with
  | (.ok id, s) => (.ok (id, validation), s)
  | (.error (.engine e), s) =>
    (.error (.engine e), s.write .warning .endpoints s!"Workflow '{w.name}' rejected: {e.message}")
  | (.error f, s) => (.error f, s)

def registeredValue (w : Workflow) (id : String) (v : Validation) : Value :=
  .dict [("workflow_id", .str id),
    ("message", .str s!"Workflow '{w.name}' created successfully"),
    ("validation_warnings", .ofStrings v.warningTexts)]

def submit (id : String) : Act Unit := fun s =>
  match s.dispatcher with
  | none => (.error (Dispatcher.refusal id), s)
  | some d =>
    match d.submit id with
    | .error f => (.error f, s)
    | .ok d =>
      (.ok (), { s with
        dispatcher := some d
        taken := s.taken ++ [id]
        host := s.host.write (Dispatcher.submittedNote id) })

/-- Whether an error says that the engine cannot take an execution. -/
def isRefusal (e : EngineError) : Bool := e.kind = .executionEngine

def queueRun (workflow : String) (context : Fields Value) : Act Execution := fun s =>
  match found "Workflow" workflow (·.loadWorkflow workflow) s with
  | (.error f, s) => (.error f, s)
  | (.ok _, s) =>
    match s.onHost (·.createExecution workflow context) with
    | (.error f, s) => (.error f, s)
    | (.ok e, s) =>
      match submit e.id s with
      | (.ok _, s) =>
        (.ok e, s.write .info .endpoints s!"Queued execution {e.id} for workflow {workflow}")
      | (.error (.engine error), s) =>
        let s := if isRefusal error then s.write .error .endpoints
          s!"Could not queue execution for workflow {workflow}: {error.message}" else s
        (.error (.engine error), s)
      | (.error f, s) => (.error f, s)

def queuedValue (e : Execution) : Value :=
  .dict [("execution_id", .str e.id), ("status", .str "queued")]

def logOf (id : String) : Act (List LogEntry) := fun s =>
  match found "Execution" id (·.loadExecution id) s with
  | (.error f, s) => (.error f, s)
  | (.ok _, s) =>
    match s.onHost (·.listLog id) with
    | (.error f, s) => (.error f, s)
    | (.ok log, s) =>
      (.ok log, s.write .debug .endpoints
        s!"Retrieved {log.length} log entries for execution {id}")

def statusValue (s : DispatcherStatus) : Value :=
  .dict [("active_executions", .int s.activeExecutions), ("max_workers", .int s.maxWorkers),
    ("available_slots", .int s.availableSlots)]

def readRegistration : Check Workflow :=
  Document.record .request "CreateWorkflowRequest" fun fields =>
    Document.required fields "workflow"
      (Document.record .request "Workflow" (Document.readWorkflow .request))

/-- The input in a request to run a workflow; a request without a body has none. -/
def readRun : Check (Fields Value)
  | .null => .good []
  | v => Document.record .request "RunWorkflowRequest"
      (fun fields => Document.optional fields "context" [] Check.mapping) v

def requiredBody {α : Type} (check : Check α) : Check α
  | .null => .problem .missing .null
  | v => check v

inductive Task where
  | greet
  | tellHealth
  | register (workflow : Workflow)
  | listWorkflows
  | showWorkflow (id : String)
  | run (workflow : String) (context : Fields Value)
  | showExecution (id : String)
  | showLog (execution : String)
  | tellLoad

def takesBody (method : String) : Resource → Bool
  | .workflows => method = "POST"
  | .runs _ => true
  | _ => false

def taskOf (method : String) (body : Value) : Resource → Checked Task
  | .root => .good .greet
  | .health => .good .tellHealth
  | .workflows =>
    if method = "POST" then (requiredBody readRegistration body).map .register
    else .good .listWorkflows
  | .workflow id => .good (.showWorkflow id)
  | .runs workflow => (readRun body).map (.run workflow)
  | .execution id => .good (.showExecution id)
  | .log execution => .good (.showLog execution)
  | .load => .good .tellLoad

def serviceName (name : String) : String :=
  String.ofList ((Text.lower name).toList.map fun c => if c == ' ' then '-' else c)

def perform (task : Task) (s : State) : Result × State :=
  match task with
  | .greet =>
    (.answered ⟨200, .dict [("message", .str s!"{s.config.appName} is running"),
      ("version", .str s.config.appVersion)]⟩, s)
  | .tellHealth =>
    (.answered ⟨200, .dict [("status", .str "healthy"),
      ("service", .str (serviceName s.config.appName)),
      ("version", .str s.config.appVersion)]⟩, s)
  | .register w => conclude 201 (fun (id, v) => registeredValue w id v) (register w s)
  | .listWorkflows =>
    conclude 200 (fun ws => .list (ws.map Document.summaryValue)) (s.onHost (·.listWorkflows))
  | .showWorkflow id =>
    conclude 200 Document.workflowValue (found "Workflow" id (·.loadWorkflow id) s)
  | .run workflow context => conclude 202 queuedValue (queueRun workflow context s)
  | .showExecution id =>
    conclude 200 Document.executionValue (found "Execution" id (·.loadExecution id) s)
  | .showLog id => conclude 200 (fun es => .list (es.map Document.logEntryValue)) (logOf id s)
  | .tellLoad =>
    (.answered ⟨200, match s.dispatcher with
      | some d => statusValue d.status
      | none => .null⟩, s)

/-- The part of a resource that is missing, if any is. A service has all its parts or none. -/
def missingComponent? (r : Resource) (s : State) : Option Component :=
  if s.dispatcher.isSome then none else (components r).head?

/-- Carries out a request at a resource: the body is decoded first, then the parts are looked for, then
the body is checked. -/
def atResource (request : Request) (r : Resource) (s : State) : Result × State :=
  match if takesBody request.method r then readBody request.body else .ok .null with
  | .error answer => (.answered answer, s)
  | .ok body =>
    match missingComponent? r s with
    | some c => (.answered (notInitialized c), s)
    | none =>
      match taskOf request.method body r with
      | .bad problems => (rejected problems, s)
      | .good task => perform task s

def route (request : Request) (s : State) : Result × State :=
  match Resource.locate? request.path with
  | none => (.answered notFound, s)
  | some r =>
    if r.methods.contains request.method then atResource request r s
    else (.answered wrongMethod, s)

end Automation.Service
