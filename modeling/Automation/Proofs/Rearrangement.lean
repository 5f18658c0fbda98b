import Automation.Proofs.RunCalls
import Automation.Run.Rehearsal

/-!
How much of a workflow's order matters. A run looks nodes up by id and follows the edges of one source
after the other, so nodes may be written in any order, the edges of different sources may be mixed in any
way, and labels count on the edges of conditions only. Two workflows that differ in nothing else are
walked by one and the same procedure.
-/
namespace Automation

open Proc

namespace Workflow

/-- The targets of the edges that leave an id, in order. -/
def targetsFrom (w : Workflow) (id : String) : List String :=
  (w.edges.filter (·.source == id)).map (·.target)

/-- The labels of the edges that leave an id, in order. -/
def labelsFrom (w : Workflow) (id : String) : List (Option String) :=
  (w.edges.filter (·.source == id)).map (·.label)

/-- Workflows of the same nodes in any order, but with the same trigger, and of the same edges as far as
a single source shows them: their targets in order and, for a condition, their labels. -/
structure Rearranges (w w' : Workflow) : Prop where
  distinct : (w.nodes.map (·.id)).Nodup
  nodes : w.nodes.Perm w'.nodes
  trigger : (Graph.ofWorkflow w).trigger? = (Graph.ofWorkflow w').trigger?
  targets : ∀ id, w.targetsFrom id = w'.targetsFrom id
  labels : ∀ n ∈ w.nodes, n.isCondition = true → w.labelsFrom n.id = w'.labelsFrom n.id

end Workflow

namespace Graph

/-- Graphs that a walk cannot tell apart: an id refers to the same node in both, and the node leads to the
same ids, however it ends. -/
structure Interchangeable (g g' : Graph) : Prop where
  node? : ∀ id, g.node? id = g'.node? id
  successors : ∀ {id n}, g.node? id = some n → ∀ outcome,
    successors n outcome (g.outgoingEdges id) = successors n outcome (g'.outgoingEdges id)

end Graph

/-- Which edge a condition takes is seen from the targets and the labels. -/
theorem branch?_congr {outgoing outgoing' : List Edge}
    (targets : outgoing.map (·.target) = outgoing'.map (·.target))
    (labels : outgoing.map (·.label) = outgoing'.map (·.label)) (outcome : Option Outcome) :
    branch? outcome outgoing = branch? outcome outgoing' := by
  have pairs : ∀ edges : List Edge, (edges.map (·.label)).zip (edges.map (·.target)) =
      edges.map fun e => (e.label, e.target) := fun _ => List.zip_map'
  have bySight : ∀ (edges : List Edge) (label : String),
      (edges.find? fun e => e.label.getD "" == label).map (·.target) =
        (((edges.map (·.label)).zip (edges.map (·.target))).find? fun p => p.1.getD "" == label).map
          (·.2) := by
    intro edges label
    rw [pairs, List.find?_map, Option.map_map]
    rfl
  unfold branch?
  split
  · rw [bySight, bySight, labels, targets]
  · rfl

namespace Workflow.Rearranges

variable {w w' : Workflow}

theorem interchangeable (h : w.Rearranges w') :
    (Graph.ofWorkflow w).Interchangeable (Graph.ofWorkflow w') where
  node? := by
    intro id
    have hg : (Graph.ofWorkflow w).Indexed := Graph.indexed_build w.nodes w.edges
    have hg' : (Graph.ofWorkflow w').Indexed := Graph.indexed_build w'.nodes w'.edges
    have distinct' : (w'.nodes.map (·.id)).Nodup := (h.nodes.map _).nodup_iff.mp h.distinct
    apply Option.ext
    intro n
    rw [hg.node?_eq_some_iff h.distinct, hg'.node?_eq_some_iff distinct']
    exact and_congr_left fun _ => h.nodes.mem_iff
  successors := by
    intro id n found outcome
    have hg : (Graph.ofWorkflow w).Indexed := Graph.indexed_build w.nodes w.edges
    have inside : n ∈ w.nodes := hg.mem found
    have named : n.id = id := hg.id_eq found
    have targets := h.targets id
    rw [Graph.ofWorkflow, Graph.ofWorkflow, Graph.outgoingEdges_build, Graph.outgoingEdges_build]
    unfold successors
    split
    · rename_i condition
      have labels := h.labels n inside condition
      rw [named] at labels
      rw [branch?_congr targets labels]
    · exact targets

end Workflow.Rearranges

namespace Graph.Interchangeable

variable {g g' : Graph}

/-- Through graphs that cannot be told apart, walks are one procedure. -/
theorem walkStack_eq (h : g.Interchangeable g') (executionId : String) (online : Bool) (w : Walk)
    (stack : List String) :
    walkStack ⟨executionId, g, online⟩ w stack = walkStack ⟨executionId, g', online⟩ w stack := by
  induction w, stack using walkStack.induct ⟨executionId, g, online⟩ with
  | case1 w => rw [walkStack.eq_def ⟨_, g, _⟩, walkStack.eq_def ⟨_, g', _⟩]
  | case2 w id rest seen ih =>
    rw [walkStack.eq_def ⟨_, g, _⟩, walkStack.eq_def ⟨_, g', _⟩]
    simp only [dif_pos seen]
    exact ih
  | case3 w id rest new missing ih =>
    have missing' : g'.node? id = none := (h.node? id).symm.trans missing
    rw [walkStack.eq_def ⟨_, g, _⟩, walkStack.eq_def ⟨_, g', _⟩]
    simp only [dif_neg new, missing, missing', ih]
  | case4 w id rest new node found outgoing ih =>
    have found' : g'.node? id = some node := (h.node? id).symm.trans found
    have next := h.successors found
    have visits : ∀ outputs, visit ⟨executionId, g, online⟩ outputs node =
        visit ⟨executionId, g', online⟩ outputs node := fun _ => rfl
    rw [walkStack.eq_def ⟨_, g, _⟩, walkStack.eq_def ⟨_, g', _⟩]
    simp only [dif_neg new, found, found', visits]
    congr 1
    funext visited
    split
    · rfl
    · rw [← next]
      exact ih _ _

/-- Walks from the trigger on are one procedure, too. -/
theorem walkFrom_eq (h : g.Interchangeable g') (executionId : String) (online : Bool) (w : Walk)
    (start : String) :
    walkFrom ⟨executionId, g, online⟩ w start = walkFrom ⟨executionId, g', online⟩ w start :=
  h.walkStack_eq executionId online w [start]

end Graph.Interchangeable

/-- Surroundings in which a workflow is stored under an id, whatever they held there before. Nobody reads
the journal, whose notes name the workflow. -/
def Answerer.offering {σ : Type} (answer : Answerer σ) (id : String) (w : Workflow) : Answerer σ
  | .loadWorkflow asked, s =>
    let (found, after) := answer (.loadWorkflow asked) s
    (if asked = id then found.map fun _ => some w else found, after)
  | .write _, s => ((), s)
  | c, s => answer c s

/-- The calls that look for no workflow. -/
def Call.LooksElsewhere : Call → Prop
  | .loadWorkflow _ => False
  | _ => True

/-- Procedures that come to the same result in the same world, with the same deeds on the way. -/
def SameRun {σ α : Type} (a b : Answerer σ) (p q : Proc α) : Prop :=
  ∀ s, p.run a s = q.run b s ∧ deeds (p.trace a s) = deeds (q.trace b s)

namespace SameRun

variable {σ α β : Type} {a b : Answerer σ}

theorem bind {p q : Proc α} {f g : α → Proc β} (first : SameRun a b p q)
    (next : ∀ x, SameRun a b (f x) (g x)) : SameRun a b (p.bind f) (q.bind g) := by
  intro s
  obtain ⟨same, same'⟩ := first s
  obtain ⟨ends, ends'⟩ := next (q.run b s).1 (q.run b s).2
  simp only [run_bind, trace_bind, deeds_append, same, same', ends, ends', and_self]

/-- A procedure of calls that both sides answer alike. -/
theorem of_only {P : Call → Prop} (alike : ∀ c, P c → ∀ s, a c s = b c s) {p : Proc α} (h : p.Only P) :
    SameRun a b p p := by
  induction p with
  | done x => exact fun s => ⟨rfl, rfl⟩
  | call c next ih =>
    intro s
    obtain ⟨same, same'⟩ := ih (b c s).1 (h.2 _) (b c s).2
    have first := alike c h.1 s
    simp only [Proc.run, Proc.trace, deeds, List.filterMap_cons, first] at same same' ⊢
    simp only [same, same', and_self]

variable {answer : Answerer σ} {id : String} {w w' : Workflow}

/-- What looks for no workflow does not depend on the one that is stored. -/
theorem elsewhere {p : Proc α} (h : p.Only Call.LooksElsewhere) :
    SameRun (answer.offering id w) (answer.offering id w') p p := by
  refine of_only (fun c elsewhere s => ?_) h
  cases c <;> first | rfl | exact elsewhere.elim

/-- What follows a call that looks for no workflow. -/
theorem after {c : Call} {f g : c.Answer → Proc β} (h : c.LooksElsewhere)
    (next : ∀ x, SameRun (answer.offering id w) (answer.offering id w') (f x) (g x)) :
    SameRun (answer.offering id w) (answer.offering id w') ((ask c).bind f) ((ask c).bind g) :=
  (elsewhere (Only.ask h)).bind next

/-- Two notes in the journal, of which nothing is seen. -/
theorem note (level : Journal.Level) (source : Journal.Source) (message message' : String) :
    SameRun (answer.offering id w) (answer.offering id w') (Proc.write level source message)
      (Proc.write level source message') :=
  fun _ => ⟨rfl, rfl⟩

/-- Where a workflow is looked for, both sides find the same, or each the one that is stored there. -/
theorem lookup (asked : String) {f : Except Failure (Option Workflow) → Proc α}
    (same : ∀ found, SameRun (answer.offering id w) (answer.offering id w') (f found) (f found))
    (offered : SameRun (answer.offering id w) (answer.offering id w') (f (.ok (some w)))
      (f (.ok (some w')))) :
    SameRun (answer.offering id w) (answer.offering id w') ((ask (.loadWorkflow asked)).bind f)
      ((ask (.loadWorkflow asked)).bind f) := by
  intro s
  simp only [ask, bind_call, bind_done, Proc.run, Proc.trace, deeds, List.filterMap_cons,
    Exchange.deed?, Answerer.offering]
  by_cases here : asked = id
  · simp only [if_pos here]
    cases (answer (.loadWorkflow asked) s).1 with
    | error failure => exact same _ _
    | ok found => exact offered _
  · simp only [if_neg here]
    exact same _ _

end SameRun

theorem finish_looksElsewhere (e : Execution) (status : Status) :
    (finish e status).Only Call.LooksElsewhere := by
  refine (finish_only e status).mono fun c ofEnd => ?_
  cases c <;> trivial

theorem walkFrom_looksElsewhere (run : RunContext) (w : Walk) (start : String) :
    (walkFrom run w start).Only Call.LooksElsewhere := by
  refine (walkStack_only run w [start]).mono fun c ofWalk => ?_
  cases c <;> trivial

theorem followWorkflow_looksElsewhere (settings : EngineSettings) (e : Execution) (w : Workflow) :
    (followWorkflow settings e w).Only Call.LooksElsewhere := by
  refine (followWorkflow_only settings e w).mono fun c made => ?_
  cases c with
  | loadWorkflow _ => exact made.elim id id
  | _ => trivial

section

variable {σ : Type} {answer : Answerer σ} {workflowId : String} {w w' : Workflow}

/-- A run that has found one of two rearranged workflows goes on as if it had found the other. -/
theorem followWorkflow_rearranged (h : w.Rearranges w') (settings : EngineSettings) (e : Execution) :
    SameRun (answer.offering workflowId w) (answer.offering workflowId w') (followWorkflow settings e w)
      (followWorkflow settings e w') := by
  have alike := h.trigger
  unfold followWorkflow
  cases triggered : (Graph.ofWorkflow w).trigger? with
  | none =>
    simp only [triggered, ← alike]
    exact (SameRun.note _ _ _ _).bind fun _ => .elsewhere (finish_looksElsewhere e .failed)
  | some trigger =>
    simp only [triggered, ← alike, ← h.interchangeable.walkFrom_eq]
    refine (SameRun.note _ _ _ _).bind fun _ => ?_
    refine (SameRun.elsewhere (walkFrom_looksElsewhere _ _ _)).bind ?_
    rintro ⟨failure, walk⟩
    cases failure with
    | some failure => exact fun s => ⟨rfl, rfl⟩
    | none => exact (SameRun.note _ _ _ _).bind fun _ => .elsewhere (finish_looksElsewhere _ .completed)

theorem carryOutExecution_rearranged (h : w.Rearranges w') (settings : EngineSettings) (e : Execution) :
    SameRun (answer.offering workflowId w) (answer.offering workflowId w') (carryOutExecution settings e)
      (carryOutExecution settings e) := by
  refine .after trivial fun now => ?_
  refine .after trivial fun saved => ?_
  cases saved with
  | error failure => exact fun s => ⟨rfl, rfl⟩
  | ok _ =>
    refine .lookup _ (fun found => .elsewhere ?_) (followWorkflow_rearranged h settings _)
    cases found with
    | error failure => exact Only.done _
    | ok found =>
      cases found with
      | none => exact Only.bind (Only.ask trivial) fun _ => finish_looksElsewhere _ .failed
      | some w => exact followWorkflow_looksElsewhere settings _ w

end

/-- The order of nodes, the way in which the edges of different sources are mixed, and labels that no
condition reads make no difference. The walks of two workflows that differ in nothing else are the same
procedure: whoever answers, they visit the same nodes in the same order and keep the same outputs. A run
of an execution that finds the one comes to the same result, saves the same records, gives the log the
same entries and sends the same requests as a run that finds the other in the same surroundings, and
leaves these as the other leaves them. -/
theorem rearranged_run_same {w w' : Workflow} (rearranged : w.Rearranges w') :
    (∀ executionId online walk start,
      walkFrom ⟨executionId, .ofWorkflow w, online⟩ walk start =
        walkFrom ⟨executionId, .ofWorkflow w', online⟩ walk start) ∧
    ∀ {σ : Type} (answer : Answerer σ) (workflowId : String) (settings : EngineSettings) (id : String)
      (s : σ),
      let run (w : Workflow) := (runExecution settings id).run (answer.offering workflowId w) s
      let exchanges (w : Workflow) := (runExecution settings id).trace (answer.offering workflowId w) s
      run w = run w' ∧ deeds (exchanges w) = deeds (exchanges w') := by
  refine ⟨rearranged.interchangeable.walkFrom_eq, ?_⟩
  intro σ answer workflowId settings id s
  have same : SameRun (answer.offering workflowId w) (answer.offering workflowId w')
      (runExecution settings id) (runExecution settings id) := by
    refine .after trivial fun loaded => ?_
    cases loaded with
    | error failure => exact fun s => ⟨rfl, rfl⟩
    | ok found =>
      cases found with
      | none => exact .elsewhere (Only.bind (Only.ask trivial) fun _ => Only.done _)
      | some e =>
        refine .after trivial fun _ => ?_
        refine (carryOutExecution_rearranged rearranged settings e).bind fun result => ?_
        exact .elsewhere (Only.bind (Only.ask trivial) fun _ => Only.done _)
  exact same s

/-- Three nodes in two orders, with a second trigger after the first; the edges of the condition stand
before, between and after those of the trigger, whose labels differ. -/
theorem rearranged_run_same_condition :
    let t : Node := { id := "t", type := "trigger" }
    let c : Node := { id := "c", type := "condition" }
    let d : Node := { id := "d", type := "delay" }
    let w : Workflow :=
      { id := some "w", name := "one", nodes := [t, c, d]
        edges := [⟨"c", "t", some "FALSE"⟩, ⟨"t", "c", none⟩, ⟨"c", "d", some "TRUE"⟩, ⟨"t", "x", none⟩] }
    let w' : Workflow :=
      { name := "other", nodes := [d, c, t]
        edges := [⟨"t", "c", some "TRUE"⟩, ⟨"t", "x", some ""⟩, ⟨"c", "t", some "FALSE"⟩,
          ⟨"c", "d", some "TRUE"⟩] }
    let stores := Rehearsal.start {} [] [{ id := "e", workflowId := "w" }] default
    let run (w : Workflow) :=
      (runExecution { keepOutputs := true } "e").run (Rehearsal.answer.offering "w" w) stores
    w.Rearranges w' ∧ run w = run w' ∧ (run w).2.saved = [.running, .completed] ∧
      (run w).2.log.map (·.nodeId) = [some "t", some "c", some "d"] := by
  intro t c d w w' stores run
  have rearranged : w.Rearranges w' := by
    refine ⟨by decide, ?_, by rfl, ?_, ?_⟩
    · exact (List.reverse_perm [d, c, t])
    · intro id
      by_cases hc : "c" = id
      · subst hc
        decide
      · by_cases ht : "t" = id <;> simp [Workflow.targetsFrom, w, w', hc, ht]
    · intro n there condition
      simp only [w, List.mem_cons, List.not_mem_nil, or_false] at there
      rcases there with rfl | rfl | rfl
      · exact absurd condition (by decide)
      · decide
      · exact absurd condition (by decide)
  have same := (rearranged_run_same rearranged).2 Rehearsal.answer "w" { keepOutputs := true } "e" stores
  exact ⟨rearranged, same.1, by decide +kernel, by decide +kernel⟩

end Automation
