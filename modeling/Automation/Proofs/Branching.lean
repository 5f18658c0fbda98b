import Automation.Proofs.GraphIndex
import Automation.Proofs.Visit

/-!
Where a node leads, stated on the nodes and edges of the definition. A condition leads along the first
edge that is labelled with its result, and nowhere if it failed or no edge is; any other node leads
along all its edges. What a visited node puts on the stack is exactly where it leads.
-/
namespace Automation

/-- The first edge from an id that is labelled with a result. -/
def Graph.labelled? (g : Graph) (id : String) (result : Bool) : Option Edge :=
  (g.edges.filter (·.source == id)).find? (·.label == some (if result then "TRUE" else "FALSE"))

/-- Where a node leads, by how it ended. A condition leads along one labelled edge, other nodes along
all edges in the order of the definition. -/
inductive LeadsTo (g : Graph) (node : Node) : Option Outcome → List String → Prop
  | everywhere {outcome} (plain : node.type ≠ "condition") :
      LeadsTo g node outcome ((g.edges.filter (·.source == node.id)).map (·.target))
  | along {b e} (condition : node.type = "condition") (first : g.labelled? node.id b = some e) :
      LeadsTo g node (some (.output [("result", .bool b)])) [e.target]
  | nowhere {b} (condition : node.type = "condition") (unlabelled : g.labelled? node.id b = none) :
      LeadsTo g node (some (.output [("result", .bool b)])) []
  | failed {text} (condition : node.type = "condition") : LeadsTo g node (some (.error text)) []

/-- A node leads one way only. -/
theorem LeadsTo.unique {g : Graph} {node : Node} {outcome : Option Outcome} {ids ids' : List String}
    (h : LeadsTo g node outcome ids) (h' : LeadsTo g node outcome ids') : ids = ids' := by
  cases h with
  | everywhere plain =>
    cases h' with
    | everywhere => rfl
    | along condition | nowhere condition | failed condition => exact absurd condition plain
  | along condition first =>
    cases h' with
    | everywhere plain => exact absurd condition plain
    | along _ first' =>
      rw [first] at first'
      cases first'
      rfl
    | nowhere _ unlabelled =>
      rw [first] at unlabelled
      cases unlabelled
  | nowhere condition unlabelled =>
    cases h' with
    | everywhere plain => exact absurd condition plain
    | along _ first =>
      rw [unlabelled] at first
      cases first
    | nowhere => rfl
  | failed condition =>
    cases h' with
    | everywhere plain => exact absurd condition plain
    | failed => rfl

theorem branch?_output (g : Graph) (id : String) (b : Bool) :
    branch? (some (.output [("result", .bool b)])) (g.edges.filter (·.source == id)) =
      (g.labelled? id b).map (·.target) := by
  have hb : holds [("result", .bool b)] = b := rfl
  have hl : (fun e : Edge => e.label.getD "" == branchLabel b) =
      fun e => e.label == some (if b then "TRUE" else "FALSE") := by
    funext e
    cases e.label <;> cases b <;> simp [branchLabel]
  simp only [branch?, hb, hl, Graph.labelled?]

/-- The ids that a visited node puts on the stack are those to which it leads. -/
theorem successors_leadsTo {g : Graph} (hg : g.Indexed) {id : String} {node : Node}
    {outcome : Option Outcome} (found : g.node? id = some node)
    (verdict : node.isCondition = true → Verdict outcome) :
    LeadsTo g node outcome (successors node outcome (g.outgoingEdges id)) := by
  have hid : node.id = id := hg.id_eq found
  rw [hg.outgoingEdges, ← hid, successors]
  by_cases hc : node.isCondition = true
  · have condition : node.type = "condition" := by
      simpa [Node.isCondition, NodeKind.text] using hc
    rw [if_pos hc]
    cases verdict hc with
    | error text => exact .failed condition
    | result b =>
      rw [branch?_output]
      cases h : g.labelled? node.id b with
      | none => exact .nowhere condition h
      | some e => exact .along condition h
  · have plain : node.type ≠ "condition" := by
      simpa [Node.isCondition, NodeKind.text] using hc
    rw [if_neg hc]
    exact .everywhere plain

end Automation
