import Automation.Proofs.Loop
import Automation.Run.Engine

/-!
The calls that a run makes once its execution is loaded. They are those of the walk and those that end
the run; only to begin with is a workflow loaded.
-/
namespace Automation

open Proc

/-- The calls that end a run. -/
def Call.OfEnd : Call → Prop
  | .readClock | .saveExecution _ | .write _ => True
  | _ => False

theorem finish_only (e : Execution) (status : Status) : (finish e status).Only Call.OfEnd := by
  refine Only.bind (Only.ask trivial) fun now => Only.bind (Only.ask trivial) fun saved => ?_
  cases saved with
  | error failure => exact Only.done _
  | ok _ => exact Only.bind (Only.ask trivial) fun _ => Only.done _

theorem followWorkflow_only (settings : EngineSettings) (e : Execution) (w : Workflow) :
    (followWorkflow settings e w).Only fun c => c.OfWalk e.id ∨ c.OfEnd := by
  have ends : ∀ e' status, (finish e' status).Only fun c => c.OfWalk e.id ∨ c.OfEnd :=
    fun e' status => (finish_only e' status).mono fun _ h => .inr h
  unfold followWorkflow
  cases triggered : (Graph.ofWorkflow w).trigger? with
  | none =>
    simp only [triggered]
    exact Only.bind (Only.ask (.inr trivial)) fun _ => ends e .failed
  | some trigger =>
    simp only [triggered]
    refine Only.bind (Only.ask (.inr trivial)) fun _ => ?_
    refine Only.bind ((walkStack_only _ {} [trigger.id]).mono fun _ h => .inl h) ?_
    rintro ⟨failure, walk⟩
    cases failure with
    | some failure => exact Only.done _
    | none => exact Only.bind (Only.ask (.inr trivial)) fun _ => ends _ .completed

/-- Until the workflow is loaded, a run makes the calls of an end; from then on, those of the workflow. -/
theorem carryOutExecution_only (settings : EngineSettings) (e : Execution) :
    (carryOutExecution settings e).Only fun c =>
      c.OfWalk e.id ∨ c.OfEnd ∨ c = .loadWorkflow e.workflowId := by
  refine Only.bind (Only.ask (.inr (.inl trivial))) fun now => ?_
  refine Only.bind (Only.ask (.inr (.inl trivial))) fun saved => ?_
  cases saved with
  | error failure => exact Only.done _
  | ok _ =>
    refine Only.bind (Only.ask (.inr (.inr rfl))) fun found => ?_
    match found with
    | .error failure => exact Only.done _
    | .ok none =>
      refine Only.bind (Only.ask (.inr (.inl trivial))) fun _ => ?_
      exact (finish_only _ .failed).mono fun _ h => .inr (.inl h)
    | .ok (some w) =>
      exact (followWorkflow_only settings _ w).mono fun _ h => h.imp_right .inl

end Automation
