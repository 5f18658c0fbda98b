import Automation.Proofs.Procedure
import Automation.Run.Traversal

/-!
One node at its turn. Its settings can be substituted or the visit fails; a visit that does not fail
yields how the node ended and keeps its output. A node makes at most one request, and only http nodes
make any. A condition that is carried out ends with a truth value or with an error.
-/
namespace Automation

open Proc

/-- The calls that carrying out a node consists of. -/
def Call.OfNode : Call → Prop
  | .write _ | .send _ => True
  | _ => False

/-- The calls that a walk of an execution consists of. What it tells the log carries the id of the
execution. -/
def Call.OfWalk (executionId : String) : Call → Prop
  | .write _ | .send _ => True
  | .appendLog entry => entry.executionId = executionId
  | _ => False

/-- The calls that send nothing. -/
def Call.Silent : Call → Prop
  | .send _ => False
  | _ => True

theorem Call.OfNode.ofWalk {c : Call} (h : c.OfNode) (executionId : String) : c.OfWalk executionId := by
  cases c <;> first | exact h.elim | trivial

/-- The outputs after a node, by how it ended. -/
def Outputs.after (outputs : Outputs) (node : Node) : Option Outcome → Outputs
  | none => outputs
  | some outcome => keepOutput outputs node outcome

/-- What a condition may end with: a truth value, or an error. -/
inductive Verdict : Option Outcome → Prop
  | result (b : Bool) : Verdict (some (.output [("result", .bool b)]))
  | error (text : String) : Verdict (some (.error text))

variable {σ : Type} (answer : Answerer σ)

theorem requests_eq_nil {α : Type} {p : Proc α} (h : p.Only Call.Silent) (s : σ) :
    requests (p.trace answer s) = [] := by
  apply h.filterMap_trace
  intro c a hc
  cases c <;> first | rfl | exact hc.elim

/-- What follows a procedure without sending anything leaves its requests as they are. -/
theorem requests_bind {α β : Type} (p : Proc α) {f : α → Proc β} (h : ∀ a, (f a).Only Call.Silent)
    (s : σ) : requests ((p.bind f).trace answer s) = requests (p.trace answer s) := by
  rw [trace_bind, requests_append, requests_eq_nil answer (h _), List.append_nil]

theorem exchange_only (t : Turn) (request : Http.Request) : (exchange t request).Only Call.OfNode := by
  unfold exchange
  split
  · exact Only.ask trivial
  · exact Only.done _

theorem handleHttp_only (t : Turn) : (handleHttp t).Only Call.OfNode := by
  unfold handleHttp
  split
  · exact Only.done _
  · refine Only.bind (exchange_only t _) ?_
    intro result
    split
    · exact Only.done _
    · split
      · exact Only.done _
      · exact Only.bind (Only.ask trivial) fun _ => Only.done _

theorem handle_only (t : Turn) (kind : NodeKind) : (handle t kind).Only Call.OfNode := by
  cases kind with
  | http => exact handleHttp_only t
  | _ => exact Only.done _

theorem carryOut_only (t : Turn) : (carryOut t).Only Call.OfNode := by
  unfold carryOut
  split
  · exact Only.done _
  · refine Only.bind (handle_only t _) ?_
    intro result
    split
    · exact Only.done _
    · exact Only.bind (Only.ask trivial) fun _ => Only.done _

theorem writeOutcome_only {P : Call → Prop} (hw : ∀ r, P (.write r)) (node : Node) (outcome : Outcome) :
    (writeOutcome node outcome).Only P := by
  cases outcome <;> exact Only.ask (hw _)

theorem deliver_only {P : Call → Prop} (hw : ∀ r, P (.write r)) {entry : LogEntry}
    (ha : P (.appendLog entry)) (node : String) : (deliver entry node).Only P := by
  refine Only.bind (Only.ask ha) ?_
  intro result
  split
  · exact Only.done _
  · exact Only.ask (hw _)

theorem visit_only (run : RunContext) (outputs : Outputs) (node : Node) :
    (visit run outputs node).Only (Call.OfWalk run.executionId) := by
  unfold visit
  split
  · exact Only.done _
  · refine Only.bind ((carryOut_only _).mono fun _ h => h.ofWalk _) ?_
    intro handled
    split
    · exact Only.bind (Only.ask trivial) fun _ => Only.done _
    · refine Only.bind (writeOutcome_only (fun _ => trivial) _ _) fun _ => ?_
      refine Only.bind (deliver_only (fun _ => trivial) ?_ _) fun _ => Only.done _
      exact rfl

theorem requests_exchange_le (t : Turn) (request : Http.Request) (s : σ) :
    (requests ((exchange t request).trace answer s)).length ≤ 1 := by
  unfold exchange
  split
  · exact Nat.le_refl 1
  · exact Nat.zero_le 1

/-- An http node makes at most one request, whatever becomes of it. -/
theorem requests_handleHttp_le (t : Turn) (s : σ) :
    (requests ((handleHttp t).trace answer s)).length ≤ 1 := by
  unfold handleHttp
  split
  · exact Nat.zero_le 1
  · rw [requests_bind answer]
    · exact requests_exchange_le answer t _ s
    · intro result
      split
      · exact Only.done _
      · split
        · exact Only.done _
        · exact Only.bind (Only.ask trivial) fun _ => Only.done _

theorem handle_silent (t : Turn) {kind : NodeKind} (h : kind ≠ .http) :
    (handle t kind).Only Call.Silent := by
  cases kind with
  | http => exact absurd rfl h
  | _ => exact Only.done _

theorem requests_handle_le (t : Turn) (kind : NodeKind) (s : σ) :
    (requests ((handle t kind).trace answer s)).length ≤ 1 := by
  by_cases h : kind = .http
  · rw [h]
    exact requests_handleHttp_le answer t s
  · rw [requests_eq_nil answer (handle_silent t h) s]
    exact Nat.zero_le 1

/-- A node makes the requests of its handler. -/
theorem requests_carryOut {t : Turn} {kind : NodeKind} (h : t.node.kind? = some kind) (s : σ) :
    requests ((carryOut t).trace answer s) = requests ((handle t kind).trace answer s) := by
  unfold carryOut
  rw [h]
  apply requests_bind
  intro result
  split
  · exact Only.done _
  · exact Only.bind (Only.ask trivial) fun _ => Only.done _

theorem requests_visit {run : RunContext} {outputs : Outputs} {node : Node} {settings : Fields Value}
    (h : outputs.resolveFields Stack.setting node.settings = .ok settings) (s : σ) :
    requests ((visit run outputs node).trace answer s) =
      requests ((carryOut ⟨node, settings, outputs, run.online⟩).trace answer s) := by
  unfold visit
  rw [h]
  apply requests_bind
  intro handled
  split
  · exact Only.bind (Only.ask trivial) fun _ => Only.done _
  · exact Only.bind (writeOutcome_only (fun _ => trivial) _ _) fun _ =>
      Only.bind (deliver_only (fun _ => trivial) trivial _) fun _ => Only.done _

/-- A visit makes at most one request. -/
theorem requests_visit_le (run : RunContext) (outputs : Outputs) (node : Node) (s : σ) :
    (requests ((visit run outputs node).trace answer s)).length ≤ 1 := by
  cases h : outputs.resolveFields Stack.setting node.settings with
  | error e =>
    unfold visit
    rw [h]
    exact Nat.zero_le 1
  | ok settings =>
    rw [requests_visit answer h]
    cases hk : node.kind? with
    | none =>
      unfold carryOut
      rw [hk]
      exact Nat.zero_le 1
    | some kind =>
      rw [requests_carryOut answer hk]
      exact requests_handle_le answer _ kind s

/-- Only http nodes make requests. -/
theorem requests_visit_eq_nil {run : RunContext} {outputs : Outputs} {node : Node}
    (hn : node.kind? ≠ some .http) (s : σ) :
    requests ((visit run outputs node).trace answer s) = [] := by
  cases h : outputs.resolveFields Stack.setting node.settings with
  | error e =>
    unfold visit
    rw [h]
    rfl
  | ok settings =>
    rw [requests_visit answer h]
    cases hk : node.kind? with
    | none =>
      unfold carryOut
      rw [hk]
      rfl
    | some kind =>
      have hne : kind ≠ .http := fun he => hn (by rw [hk, he])
      rw [requests_carryOut answer hk]
      exact requests_eq_nil answer (handle_silent _ hne) s

theorem handleCondition_outcome {t : Turn} {handled : Handled} (h : handleCondition t = .ok handled) :
    Verdict (some handled.outcome) := by
  simp only [handleCondition] at h
  split at h
  · cases h
  · cases h
    exact .result _

/-- A condition that is carried out ends with a verdict. -/
theorem carryOut_verdict {t : Turn} (h : t.node.isCondition = true) (s : σ) :
    Verdict (((carryOut t).run answer s).1.map (·.outcome)) := by
  have hk : t.node.kind? = some .condition := by
    have ht : t.node.type = "condition" := by simpa [Node.isCondition, NodeKind.text] using h
    rw [Node.kind?, ht]
    decide
  unfold carryOut
  rw [hk]
  simp only [handle, bind_done]
  cases hc : handleCondition t with
  | error e => exact .error e.text
  | ok handled => exact handleCondition_outcome hc

/-- A visit fails where the settings of its node cannot be substituted, before any call. -/
theorem visit_of_error {run : RunContext} {outputs : Outputs} {node : Node} {e : Failure}
    (h : outputs.resolveFields Stack.setting node.settings = .error e) :
    visit run outputs node = .done (.error e) := by
  unfold visit
  rw [h]

/-- A visit that does not fail yields how the node was carried out, and the outputs after that. -/
theorem run_visit_of_ok {run : RunContext} {outputs : Outputs} {node : Node} {settings : Fields Value}
    (h : outputs.resolveFields Stack.setting node.settings = .ok settings) (s : σ) :
    ((visit run outputs node).run answer s).1 =
      let outcome :=
        ((carryOut ⟨node, settings, outputs, run.online⟩).run answer s).1.map (·.outcome)
      .ok (outcome, outputs.after node outcome) := by
  unfold visit
  rw [h]
  simp only [run_bind]
  cases ((carryOut ⟨node, settings, outputs, run.online⟩).run answer s).1 with
  | none => rfl
  | some handled =>
    simp only [run_bind, run_done]
    rfl

/-- What is known of the result of a visit. -/
theorem visit_ok {run : RunContext} {outputs outputs' : Outputs} {node : Node}
    {outcome : Option Outcome} {s s' : σ}
    (h : (visit run outputs node).run answer s = (.ok (outcome, outputs'), s')) :
    outputs' = outputs.after node outcome ∧ (node.isCondition = true → Verdict outcome) := by
  have h₁ := congrArg Prod.fst h
  cases hr : outputs.resolveFields Stack.setting node.settings with
  | error e =>
    rw [visit_of_error hr] at h₁
    cases h₁
  | ok settings =>
    rw [run_visit_of_ok answer hr] at h₁
    cases h₁
    exact ⟨rfl, fun hc => carryOut_verdict answer hc s⟩

theorem visit_settings {run : RunContext} {outputs : Outputs} {node : Node}
    {r : Option Outcome × Outputs} {s s' : σ}
    (h : (visit run outputs node).run answer s = (.ok r, s')) :
    ∃ settings, outputs.resolveFields Stack.setting node.settings = .ok settings := by
  cases hr : outputs.resolveFields Stack.setting node.settings with
  | error e =>
    rw [visit_of_error hr] at h
    cases h
  | ok settings => exact ⟨settings, rfl⟩

theorem visit_error {run : RunContext} {outputs : Outputs} {node : Node} {e : Failure} {s s' : σ}
    (h : (visit run outputs node).run answer s = (.error e, s')) :
    outputs.resolveFields Stack.setting node.settings = .error e := by
  have h₁ := congrArg Prod.fst h
  cases hr : outputs.resolveFields Stack.setting node.settings with
  | error e' =>
    rw [visit_of_error hr] at h₁
    cases h₁
    rfl
  | ok settings =>
    rw [run_visit_of_ok answer hr] at h₁
    cases h₁

end Automation
