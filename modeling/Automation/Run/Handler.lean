import Automation.Condition
import Automation.Http.Setting
import Automation.Run.Proc
import Automation.Text.Letter

/-!
What each kind of node does. A node yields an output or an error, and one entry for the log of the
execution. Whatever goes wrong inside a node stays there.
-/
namespace Automation

open Journal (Record)

/-- An entry for the log, before it is known to which execution it belongs. -/
structure NodeLog where
  severity : LogSeverity
  message : String
  data : Fields Value := []
  deriving Inhabited

inductive Outcome where
  | output (fields : Fields Value)
  | error (text : String)
  deriving Inhabited

def Outcome.succeeded : Outcome → Bool
  | .output _ => true
  | .error _ => false

structure Handled where
  outcome : Outcome
  log : NodeLog
  deriving Inhabited

namespace Handled

def success (output : Fields Value) (severity : LogSeverity) (message : String)
    (data : Fields Value := []) : Handled :=
  ⟨.output output, ⟨severity, message, data⟩⟩

def failure (message error : String) : Handled :=
  ⟨.error error, ⟨.error, message, [("error", .str error)]⟩⟩

end Handled

/-- A node at its turn: its own settings, and the same with all placeholders substituted. -/
structure Turn where
  node : Node
  settings : Fields Value
  outputs : Outputs
  /-- Whether there is a network to send requests to. -/
  online : Bool := true
  deriving Inhabited

namespace Turn

def setting (t : Turn) (name : String) (default : Value := .null) : Value :=
  (t.settings.get? name).getD default

end Turn

def confidence : Double := .number false (Double.rankOfRatio 9 10)

/-- Triggers and erp nodes mark a place and do nothing. -/
def handleMarker : Handled := .success [("result", .str "ok")] .info "Node processed"

/-- The message leaves by another way; the node only notes what is to be done. -/
def handleEmail (t : Turn) : Handled :=
  .success [("status", .str "queued")] .info "Email queued" [("recipient", t.setting "recipient")]

def handleAi : Handled :=
  .success [("output", .str "ok"), ("confidence", .float confidence)] .info "AI processed"

/-- No time passes. -/
def handleDelay (t : Turn) : Handled :=
  .success [("completed", .bool true)] .info "Delay completed"
    [("delay", t.setting "delay" (.int 0))]

/-- Compares the two sides; a side that is not given is the empty text. -/
def handleCondition (t : Turn) : Except Failure Handled :=
  let operator := Condition.Operator.ofSetting? (t.setting "operator")
  match Condition.evaluate (t.setting "leftSide" (.str "")) operator
      (t.setting "rightSide" (.str "")) with
  | .error e => .error e
  | .ok holds =>
    .ok (.success [("result", .bool holds)] .info "Condition evaluated" [("result", .bool holds)])

/-- The data, or something in its place where it counts as not given. -/
def Value.orElse (v other : Value) : Value := if v.isTruthy then v else other

/-- The request that an http node makes. Its headers are decoded from the settings as they were
written, and only a POST has a body. -/
def requestOf (t : Turn) : Except Failure Http.Request := do
  let method ← ((t.setting "method").orElse (.str "GET")).text?
  let method := Text.upper method
  let url := (t.setting "url").orElse (.str "")
  let headers ← Http.decodeHeaders t.outputs ((t.node.settings.get? "headers").getD .null)
  let body ← if method = "POST" then Http.decodeBody (t.setting "body") else .ok .null
  .ok ⟨method, url, headers, body⟩

def responseFields (r : Http.Response) : Fields Value :=
  [("response", r.body), ("status", .int r.status), ("headers", .dict r.headers)]

/-- The answer to a request; without a network, the error that says so. -/
def exchange (t : Turn) (request : Http.Request) : Proc (Except Failure Http.Response) :=
  if t.online then .ask (.send request)
  else .done (.error (.engine (({ kind := .nodeExecution
                                  message := "No HTTP transport configured" } : EngineError).note
    [("node_id", .str t.node.id), ("node_type", .str t.node.type)])))

/-- Makes the request of an http node. A request that fails is an outcome of its own. -/
def handleHttp (t : Turn) : Proc (Except Failure Handled) :=
  match requestOf t with
  | .error e => .done (.error e)
  | .ok request =>
    (exchange t request).bind fun answer =>
      match answer with
      | .ok response =>
        .done (.ok (.success (responseFields response) .success "HTTP request executed"
          [("status", .int response.status)]))
      | .error e =>
        match request.url.text? with
        | .error e => .done (.error e)
        | .ok url =>
          let message := s!"HTTP node {t.node.id} failed: {request.method} {url}: {e.text}"
          (Proc.write .warning .handlers message).bind fun _ =>
            .done (.ok (.failure "HTTP request failed" e.text))

def handle (t : Turn) : NodeKind → Proc (Except Failure Handled)
  | .trigger | .erp => .done (.ok handleMarker)
  | .http => handleHttp t
  | .condition => .done (handleCondition t)
  | .email => .done (.ok (handleEmail t))
  | .ai => .done (.ok handleAi)
  | .delay => .done (.ok (handleDelay t))

/-- Carries out a node. Nodes of unknown kinds do nothing at all; a failure inside a node is its
outcome. -/
def carryOut (t : Turn) : Proc (Option Handled) :=
  match t.node.kind? with
  | none => .done none
  | some kind =>
    (handle t kind).bind fun result =>
      match result with
      | .ok handled => .done (some handled)
      | .error e =>
        let message := s!"Handler for node {t.node.id} ({t.node.type}) raised: {e.text}"
        let record := { Journal.note .error .handlers message with failure := some e }
        (Proc.ask (.write record)).bind fun _ =>
          .done (some (.failure "Node execution failed" e.text))

end Automation
