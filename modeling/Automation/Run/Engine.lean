import Automation.Run.Traversal

/-!
A run of an execution: it is marked as running, its workflow is walked through from the trigger, and
it is marked as completed; or as failed, where there is no workflow or no trigger. A guarded run marks
the execution as failed as well when a collaborator gives up under it.
-/
namespace Automation

structure EngineSettings where
  /-- Whether http nodes have a network. -/
  online : Bool := true
  /-- Whether the outputs of a completed run are kept with its record. -/
  keepOutputs : Bool := false
  deriving DecidableEq, Repr, Inhabited

def runFields (e : Execution) : Fields Value :=
  [("execution_id", .str e.id), ("workflow_id", .str e.workflowId)]

/-- Ends a run: the status and the time are stored. -/
def finish (e : Execution) (status : Status) : Proc (Except Failure Execution) :=
  (Proc.ask .readClock).bind fun now =>
    let e := { e with status := status, endedAt := some (now : Instant) }
    (Proc.ask (.saveExecution e)).bind fun answer =>
      match answer with
      | .error failure => .done (.error failure)
      | .ok _ =>
        (Proc.write .info .engine
          s!"Execution {e.id} finished with status {status.text}").bind fun _ => .done (.ok e)

def workflowLabel (w : Workflow) : String := w.id.getD "None"

/-- Walks through the workflow of an execution and ends the run. -/
def followWorkflow (settings : EngineSettings) (e : Execution) (w : Workflow) :
    Proc (Except Failure Execution) :=
  let graph := Graph.ofWorkflow w
  match graph.trigger? with
  | none =>
    (Proc.write .warning .engine
      s!"Workflow {workflowLabel w} has no trigger node, execution {e.id} failed").bind fun _ =>
      finish e .failed
  | some trigger =>
    (Proc.write .info .engine
      s!"Starting execution {e.id} of workflow {workflowLabel w} at trigger {trigger.id}").bind fun _ =>
      (walkFrom ⟨e.id, graph, settings.online⟩ {} trigger.id).bind fun (failure, walk) =>
        match failure with
        | some failure => .done (.error failure)
        | none =>
          let e := if settings.keepOutputs then { e with outputs := some walk.outputs } else e
          (Proc.write .info .engine
            s!"Execution {e.id} visited {walk.order.length} node(s)").bind fun _ =>
            finish e .completed

def carryOutExecution (settings : EngineSettings) (e : Execution) :
    Proc (Except Failure Execution) :=
  (Proc.ask .readClock).bind fun now =>
    let e := { e with status := .running, startedAt := some (now : Instant) }
    (Proc.ask (.saveExecution e)).bind fun saved =>
      match saved with
      | .error failure => .done (.error failure)
      | .ok _ =>
        (Proc.ask (.loadWorkflow e.workflowId)).bind fun loaded =>
          match loaded with
          | .error failure => .done (.error failure)
          | .ok none =>
            (Proc.write .warning .engine
              s!"Workflow {e.workflowId} not found for execution {e.id}").bind fun _ =>
              finish e .failed
          | .ok (some w) => followWorkflow settings e w

/-- Runs an execution. Yields its final record, or nothing if there is no such execution. The journal
carries the ids of the run for as long as it lasts. -/
def runExecution (settings : EngineSettings) (id : String) :
    Proc (Except Failure (Option Execution)) :=
  (Proc.ask (.loadExecution id)).bind fun loaded =>
    match loaded with
    | .error failure => .done (.error failure)
    | .ok none =>
      (Proc.write .debug .engine s!"Execution {id} not found, nothing to run").bind fun _ =>
        .done (.ok none)
    | .ok (some e) =>
      (Proc.ask (.enterContext (runFields e))).bind fun _ =>
        (carryOutExecution settings e).bind fun result =>
          (Proc.ask .leaveContext).bind fun _ => .done (result.map some)

/-- Marks an execution as failed, unless it is over already. -/
def markFailed (id : String) : Proc Unit :=
  let giveUp (failure : Failure) : Proc Unit :=
    .write .error .dispatcher s!"Failed to mark execution {id} as failed: {failure.text}"
  (Proc.ask (.loadExecution id)).bind fun loaded =>
    match loaded with
    | .error failure => giveUp failure
    | .ok none => .done ()
    | .ok (some e) =>
      if e.status.isTerminal then .done ()
      else
        (Proc.ask .readClock).bind fun now =>
          (Proc.ask (.saveExecution
            { e with status := .failed, endedAt := some (now : Instant) })).bind fun saved =>
            match saved with
            | .ok _ => .done ()
            | .error failure => giveUp failure

/-- Runs an execution so that its failure concerns nobody else. -/
def runGuarded (settings : EngineSettings) (id : String) : Proc (Option Execution) :=
  (runExecution settings id).bind fun result =>
    match result with
    | .ok e => .done e
    | .error failure =>
      let message := s!"Execution {id} aborted: {failure.text}"
      let record := { Journal.note .error .dispatcher message with failure := some failure }
      (Proc.ask (.write record)).bind fun _ =>
        (markFailed id).bind fun _ => .done none

end Automation
