import Automation.Proofs.Documents
import Automation.Proofs.GraphIndex
import Automation.Proofs.Trimming
import Automation.Workflow.Validation

/-!
How the ids of a document are spelled. The id of a node is trimmed when the document is read, and the end
of an edge is taken as it stands. So an end that is written like the id of a node leads to that node just
where the id has no blanks around it; with blanks it leads nowhere, and the checks of the graph warn of
it.
-/
namespace Automation

open Document Text

namespace Graph

variable {g : Graph} {s : String}

/-- What the checks of edges warn of. -/
theorem mem_edgeWarnings {warning : GraphWarning} : warning ∈ g.edgeWarnings ↔
    ∃ e ∈ g.edges, g.node? e.source = none ∧ warning = .noSource e.source ∨
      g.node? e.target = none ∧ warning = .noTarget e.target := by
  simp only [edgeWarnings, List.mem_flatMap, List.mem_append]
  refine exists_congr fun e => and_congr_right fun _ => or_congr ?_ ?_
  · cases g.node? e.source <;> simp
  · cases g.node? e.target <;> simp

/-- Only the checks of edges warn of ids that lead nowhere. -/
theorem mem_warnings_iff {warning : GraphWarning} {id : String}
    (ofEdge : warning = .noSource id ∨ warning = .noTarget id) :
    warning ∈ g.validate.warnings ↔ warning ∈ g.edgeWarnings := by
  have elsewhere : warning ∉ g.triggerWarnings ∧ warning ∉ g.kindWarnings ∧
      warning ∉ g.branchWarnings := by
    rcases ofEdge with rfl | rfl
    all_goals
      refine ⟨?_, by simp [kindWarnings], by simp [branchWarnings]⟩
      unfold triggerWarnings
      split <;> simp
  simp [validate, elsewhere]

theorem noSource_mem_iff :
    .noSource s ∈ g.validate.warnings ↔ g.node? s = none ∧ ∃ e ∈ g.edges, e.source = s := by
  rw [mem_warnings_iff (.inl rfl), mem_edgeWarnings]
  constructor
  · rintro ⟨e, there, ⟨missing, same⟩ | ⟨-, other⟩⟩
    · cases same
      exact ⟨missing, e, there, rfl⟩
    · cases other
  · rintro ⟨missing, e, there, rfl⟩
    exact ⟨e, there, .inl ⟨missing, rfl⟩⟩

theorem noTarget_mem_iff :
    .noTarget s ∈ g.validate.warnings ↔ g.node? s = none ∧ ∃ e ∈ g.edges, e.target = s := by
  rw [mem_warnings_iff (.inr rfl), mem_edgeWarnings]
  constructor
  · rintro ⟨e, there, ⟨-, other⟩ | ⟨missing, same⟩⟩
    · cases other
    · cases same
      exact ⟨missing, e, there, rfl⟩
  · rintro ⟨missing, e, there, rfl⟩
    exact ⟨e, there, .inr ⟨missing, rfl⟩⟩

end Graph

section

variable {origin : Origin} {doc : Fields Value} {w : Workflow}

/-- The ids of the nodes of a document that is accepted are trimmed. -/
theorem trim_id_of_accepted (accepted : readWorkflow origin doc = .good w) :
    ∀ n ∈ w.nodes, trim n.id = n.id := by
  intro n there
  obtain ⟨fields, read⟩ := of_mem_read (lists_of_readWorkflow accepted).1 there
  obtain ⟨s, -, id⟩ := id_of_readNode read
  rw [id, trim_trim]

/-- An id that is written at a node is one of the graph's just where it is trimmed. -/
theorem node?_isSome_iff_trimmed (accepted : readWorkflow origin doc = .good w) {n : Node} {s : String}
    (there : n ∈ w.nodes) (read : n.id = trim s) :
    ((Graph.ofWorkflow w).node? s).isSome ↔ trim s = s := by
  have hg : (Graph.ofWorkflow w).Indexed := Graph.indexed_build w.nodes w.edges
  constructor
  · intro found
    obtain ⟨n', found⟩ := Option.isSome_iff_exists.mp found
    rw [← hg.id_eq found]
    exact trim_id_of_accepted accepted n' (hg.mem found)
  · intro trimmed
    rw [Option.isSome_iff_ne_none]
    intro missing
    exact hg.node?_eq_none_iff.mp missing n there (read.trans trimmed)

end

/-- In a document that is accepted, an end of an edge that is written exactly like the id of a node leads to
that node just where the id has no blanks around it: it is found under the id, the edge leaves it if the end
is its source, and the checks do not warn of the end. Of several nodes with the id the last is found. With
blanks around the id, the end leads nowhere, whatever other nodes there are. -/
theorem endpoint_refers_iff_trimmed (origin : Origin) {doc : Fields Value} {w : Workflow}
    (accepted : readWorkflow origin doc = .good w) {i : Nat} {node : Fields Value} {s : String}
    (there : recordAt? doc "nodes" i = some node) (named : node.get? "id" = some (.str s)) :
    let g := Graph.ofWorkflow w
    ∃ n, w.nodes[i]? = some n ∧ ((g.node? s).isSome ↔ trim s = s) ∧
      (trim s = s → (w.nodes.map (·.id)).Nodup → g.node? s = some n) ∧
      ∀ j edge, recordAt? doc "edges" j = some edge → ∃ e, w.edges[j]? = some e ∧
        (edge.get? "source_node_id" = some (.str s) →
          (e ∈ g.outgoingEdges n.id ↔ trim s = s) ∧ (.noSource s ∈ g.validate.warnings ↔ trim s ≠ s)) ∧
        (edge.get? "target_node_id" = some (.str s) →
          e.target = s ∧ (.noTarget s ∈ g.validate.warnings ↔ trim s ≠ s)) := by
  intro g
  have hg : g.Indexed := Graph.indexed_build w.nodes w.edges
  obtain ⟨nodes, edges⟩ := lists_of_readWorkflow accepted
  obtain ⟨n, at_, read⟩ := of_recordAt? there nodes
  obtain ⟨_, written, id⟩ := id_of_readNode read
  cases written.symm.trans named
  have inside : n ∈ w.nodes := List.mem_of_getElem? at_
  have found : (g.node? s).isSome ↔ trim s = s := node?_isSome_iff_trimmed accepted inside id
  have missing : g.node? s = none ↔ trim s ≠ s :=
    Option.not_isSome_iff_eq_none.symm.trans (not_congr found)
  refine ⟨n, at_, found, fun trimmed distinct => ?_, ?_⟩
  · exact (hg.node?_eq_some_iff distinct).mpr ⟨inside, id.trans trimmed⟩
  · intro j edge there
    obtain ⟨e, at_, read⟩ := of_recordAt? there edges
    obtain ⟨source, target⟩ := ends_of_readEdge read
    have inside : e ∈ g.edges := List.mem_of_getElem? at_
    refine ⟨e, at_, fun written => ?_, fun written => ?_⟩
    · cases source.symm.trans written
      have leaves : e ∈ g.outgoingEdges n.id ↔ trim e.source = e.source := by
        rw [hg.outgoingEdges, List.mem_filter, id, beq_iff_eq, eq_comm]
        exact and_iff_right inside
      exact ⟨leaves, Graph.noSource_mem_iff.trans ((and_iff_left ⟨e, inside, rfl⟩).trans missing)⟩
    · cases target.symm.trans written
      exact ⟨rfl, Graph.noTarget_mem_iff.trans ((and_iff_left ⟨e, inside, rfl⟩).trans missing)⟩

/-- A trigger and an edge that leads back to it, both without blanks. -/
theorem endpoint_refers_iff_trimmed_loop :
    let node : Fields Value := [("id", .str "t"), ("type", .str "trigger")]
    let edge : Fields Value := [("source_node_id", .str "t"), ("target_node_id", .str "t")]
    let doc : Fields Value :=
      [("name", .str "w"), ("nodes", .list [.dict node]), ("edges", .list [.dict edge])]
    let w : Workflow :=
      { name := "w", nodes := [{ id := "t", type := "trigger" }], edges := [⟨"t", "t", none⟩] }
    readWorkflow .caller doc = .good w ∧ ((Graph.ofWorkflow w).node? "t").isSome ∧
      .noSource "t" ∉ (Graph.ofWorkflow w).validate.warnings := by
  intro node edge doc w
  have accepted : readWorkflow .caller doc = .good w := by rfl
  obtain ⟨n, -, found, -, ends⟩ := endpoint_refers_iff_trimmed .caller accepted (i := 0) rfl rfl
  obtain ⟨e, -, source, -⟩ := ends 0 edge rfl
  exact ⟨accepted, found.mpr (by decide), fun warned => (source rfl).2.mp warned (by decide)⟩

/-- A trigger and an edge that leads back to it, both written with a blank. The node is found without the
blank only, and the edge leads from nowhere to nowhere. -/
theorem padded_endpoint_dangles :
    let node : Fields Value := [("id", .str "t "), ("type", .str "trigger")]
    let edge : Fields Value := [("source_node_id", .str "t "), ("target_node_id", .str "t ")]
    let doc : Fields Value :=
      [("name", .str "w"), ("nodes", .list [.dict node]), ("edges", .list [.dict edge])]
    ∃ w, readWorkflow .caller doc = .good w ∧ ((Graph.ofWorkflow w).node? "t").isSome ∧
      (Graph.ofWorkflow w).node? "t " = none ∧ (Graph.ofWorkflow w).outgoingEdges "t" = [] ∧
      (Graph.ofWorkflow w).validate.warnings = [.noSource "t ", .noTarget "t "] := by
  intro node edge doc
  exact ⟨{ name := "w", nodes := [{ id := "t", type := "trigger" }], edges := [⟨"t ", "t ", none⟩] },
    rfl, rfl, rfl, rfl, rfl⟩

end Automation
