import Automation.Run.Handler
import Automation.Workflow.Validation

/-!
The walk of a run through its graph: depth first, each node at most once, the edges of a node in the
order in which they were written. A condition goes on along one labelled edge only. Edges to nowhere
end their branch.

The ids still to be visited stand on a stack. The walk ends because every visit of a new id uses up
the edges that leave it.
-/
namespace Automation

structure Walk where
  visited : List String := []
  /-- The nodes visited, in order. -/
  order : List String := []
  outputs : Outputs := []
  deriving Inhabited

def Walk.enter (w : Walk) (id : String) : Walk :=
  { w with visited := id :: w.visited, order := w.order ++ [id] }

structure RunContext where
  executionId : String
  graph : Graph
  online : Bool := true

/-- Delivers one entry to the log. A log that fails stops nothing. -/
def deliver (entry : LogEntry) (node : String) : Proc Unit :=
  (Proc.ask (.appendLog entry)).bind fun answer =>
    match answer with
    | .ok _ => .done ()
    | .error e => .write .error .engine s!"Failed to append log entry for node {node}: {e.text}"

def keepOutput (outputs : Outputs) (node : Node) : Outcome → Outputs
  | .output fields => Fields.insert node.id (.dict fields) outputs
  | .error _ => outputs

/-- What the journal says about a node that was carried out. -/
def writeOutcome (node : Node) : Outcome → Proc Unit
  | .output _ => .write .debug .engine s!"Node {node.id} ({node.type}) completed"
  | .error text => .write .warning .engine s!"Node {node.id} ({node.type}) failed: {text}"

/-- Carries out a node in a run: its placeholders are substituted, its output is kept and its log
entry delivered. Yields how the node ended, if it has a known kind, and the outputs after it. -/
def visit (run : RunContext) (outputs : Outputs) (node : Node) :
    Proc (Except Failure (Option Outcome × Outputs)) :=
  match outputs.resolveFields Stack.setting node.settings with
  | .error e => .done (.error e)
  | .ok settings =>
    (carryOut ⟨node, settings, outputs, run.online⟩).bind fun handled =>
      match handled with
      | none =>
        (Proc.write .debug .engine
          s!"Node {node.id} has unknown type '{node.type}', not dispatched").bind fun _ =>
          .done (.ok (none, outputs))
      | some handled =>
        let entry : LogEntry :=
          { executionId := run.executionId, nodeId := some node.id, severity := handled.log.severity,
            message := handled.log.message, data := handled.log.data }
        (writeOutcome node handled.outcome).bind fun _ =>
          (deliver entry node.id).bind fun _ =>
            .done (.ok (some handled.outcome, keepOutput outputs node handled.outcome))

/-- Whether the output of a condition says that it holds. -/
def holds (output : Fields Value) : Bool := ((output.get? "result").getD .null).isTruthy

/-- The target of the edge that a condition takes: the first with the label of its result. A failed
condition takes none. -/
def branch? (outcome : Option Outcome) (outgoing : List Edge) : Option String :=
  match outcome with
  | some (.output output) =>
    (outgoing.find? fun e => e.label.getD "" == branchLabel (holds output)).map (·.target)
  | _ => none

/-- The ids that follow a node, the first to be visited in front. -/
def successors (node : Node) (outcome : Option Outcome) (outgoing : List Edge) : List String :=
  if node.isCondition then (branch? outcome outgoing).toList else outgoing.map (·.target)

theorem branch?_toList_length_le (outcome : Option Outcome) (outgoing : List Edge) :
    (branch? outcome outgoing).toList.length ≤ outgoing.length := by
  cases outgoing with
  | nil =>
    unfold branch?
    split <;> simp
  | cons e rest =>
    cases branch? outcome (e :: rest) <;> simp

theorem successors_length_le (node : Node) (outcome : Option Outcome) (outgoing : List Edge) :
    (successors node outcome outgoing).length ≤ outgoing.length := by
  unfold successors
  split
  · exact branch?_toList_length_le outcome outgoing
  · simp

/-- How many edges leave sources that are not yet visited. -/
def edgesAhead (groups : EdgeGroups) (visited : List String) : Nat :=
  match groups with
  | [] => 0
  | (source, edges) :: rest =>
    (if visited.contains source then 0 else edges.length) + edgesAhead rest visited

theorem edgesAhead_cons_le (groups : EdgeGroups) (visited : List String) (id : String) :
    edgesAhead groups (id :: visited) ≤ edgesAhead groups visited := by
  induction groups with
  | nil => simp [edgesAhead]
  | cons group rest ih =>
    obtain ⟨source, edges⟩ := group
    simp only [edgesAhead, List.contains_cons]
    cases h : visited.contains source <;> cases hs : source == id <;> simp <;> omega

/-- Visiting a new id uses up the edges that leave it. -/
theorem edgesAhead_cons (groups : EdgeGroups) {visited : List String} {id : String}
    (h : visited.contains id = false) :
    edgesAhead groups (id :: visited) + ((groups.get? id).getD []).length ≤
      edgesAhead groups visited := by
  induction groups with
  | nil => simp [edgesAhead, Fields.get?]
  | cons group rest ih =>
    obtain ⟨source, edges⟩ := group
    by_cases hs : id = source
    · subst hs
      have := edgesAhead_cons_le rest visited id
      have hnew : id ∉ visited := by simpa using h
      simp [edgesAhead, Fields.get?, hnew]
      omega
    · have hne : (id == source) = false := by simpa using hs
      have hne' : (source == id) = false := by simpa using fun h' => hs h'.symm
      simp only [edgesAhead, Fields.get?, List.lookup_cons, hne, List.contains_cons, hne',
        Bool.false_or] at ih ⊢
      omega

/-- Visits the ids on the stack and all that follows from them. A failure outside of a node ends the
walk where it is. -/
def walkStack (run : RunContext) (walk : Walk) (stack : List String) :
    Proc (Option Failure × Walk) :=
  match stack with
  | [] => .done (none, walk)
  | id :: rest =>
    if _new : walk.visited.contains id then walkStack run walk rest
    else
      match run.graph.node? id with
      | none =>
        (Proc.write .debug .engine s!"Edge target {id} does not exist, skipping").bind fun _ =>
          walkStack run { walk with visited := id :: walk.visited } rest
      | some node =>
        let outgoing := run.graph.outgoingEdges id
        (visit run walk.outputs node).bind fun visited =>
          match visited with
          | .error e => .done (some e, walk.enter id)
          | .ok (outcome, outputs) =>
            walkStack run { walk.enter id with outputs := outputs }
              (successors node outcome outgoing ++ rest)
termination_by edgesAhead run.graph.outgoing walk.visited + stack.length
decreasing_by
  · simp
  · have := edgesAhead_cons_le run.graph.outgoing walk.visited id
    simp only [List.length_cons]
    omega
  · have h := edgesAhead_cons run.graph.outgoing (Bool.not_eq_true _ ▸ _new)
    have hs := successors_length_le node outcome (run.graph.outgoingEdges id)
    simp only [List.length_append, List.length_cons, Graph.outgoingEdges, Walk.enter] at hs ⊢
    omega

def walkFrom (run : RunContext) (walk : Walk) (start : String) : Proc (Option Failure × Walk) :=
  walkStack run walk [start]

end Automation
