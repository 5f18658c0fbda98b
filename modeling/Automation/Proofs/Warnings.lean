import Automation.Proofs.Provenance
import Automation.Proofs.RunCalls

/-!
What the checks of a graph announce. A run tolerates a graph without a trigger, edges to nowhere, nodes
of unknown kinds and conditions without a labelled branch; whenever it meets one of them, the checks had
warned of it. So a graph without warnings is walked over its nodes only, and each of them tells the log
about itself, but for one whose settings cannot be substituted.
-/
namespace Automation

open Proc

namespace Graph

variable {g : Graph}

theorem noTrigger_mem (missing : g.trigger? = none) : .noTrigger ∈ g.validate.warnings := by
  have none : g.nodes.filter (·.isTrigger) = [] := by
    simpa [trigger?] using missing
  simp [validate, triggerWarnings, none]

theorem unknownKind_mem {n : Node} (there : n ∈ g.nodes) (unknown : n.kind? = none) :
    .unknownKind n.id n.type ∈ g.validate.warnings := by
  have warned : .unknownKind n.id n.type ∈ g.kindWarnings :=
    List.mem_filterMap.mpr ⟨n, there, by simp [unknown]⟩
  simp [validate, warned]

theorem noTarget_mem {e : Edge} (there : e ∈ g.edges) (missing : g.node? e.target = none) :
    .noTarget e.target ∈ g.validate.warnings := by
  have warned : .noTarget e.target ∈ g.edgeWarnings :=
    List.mem_flatMap.mpr ⟨e, there, by simp [missing]⟩
  simp [validate, warned]

theorem noBranch_mem {n : Node} (there : n ∈ g.nodes) (condition : n.isCondition = true)
    (branchless : ∀ e ∈ g.outgoingEdges n.id, isBranch e = false) :
    .noBranch n.id ∈ g.validate.warnings := by
  have warned : .noBranch n.id ∈ g.branchWarnings :=
    List.mem_filterMap.mpr ⟨n, there, by simpa [condition] using branchless⟩
  simp [validate, warned]

/-- Where no edge is taken with either result, none is a branch. -/
theorem isBranch_of_branch? {outgoing : List Edge}
    (nowhere : ∀ b, branch? (some (.output [("result", .bool b)])) outgoing = none) :
    ∀ e ∈ outgoing, isBranch e = false := by
  intro e there
  have labelled : ∀ b, e.label ≠ some (branchLabel b) := by
    intro b label
    have taken := nowhere b
    simp only [branch?, Option.map_eq_none_iff, List.find?_eq_none] at taken
    exact taken e there (by simp [label, holds, Fields.get?, Value.isTruthy])
  simp [isBranch, labelled]

end Graph

theorem mem_of_branch? {outcome : Option Outcome} {outgoing : List Edge} {id : String}
    (taken : branch? outcome outgoing = some id) : ∃ e ∈ outgoing, e.target = id := by
  unfold branch? at taken
  split at taken
  · obtain ⟨e, found, target⟩ := Option.map_eq_some_iff.mp taken
    exact ⟨e, List.mem_of_find?_eq_some found, target⟩
  · cases taken

/-- A node leads along its edges only. -/
theorem mem_successors {node : Node} {outcome : Option Outcome} {outgoing : List Edge} {id : String}
    (there : id ∈ successors node outcome outgoing) : ∃ e ∈ outgoing, e.target = id := by
  unfold successors at there
  split at there
  · exact mem_of_branch? (Option.mem_toList.mp there)
  · exact List.mem_map.mp there

section

variable {σ : Type} {answer : Answerer σ}

namespace Loop

variable {run : RunContext} {l l' : Loop σ}

/-- Of the ids that a walk visited or has still to visit, those that are no node's were warned of. -/
structure Foretold (run : RunContext) (l : Loop σ) : Prop where
  pending : ∀ id ∈ l.stack, run.graph.node? id = none → .noTarget id ∈ run.graph.validate.warnings
  visited : ∀ id ∈ l.walk.visited, run.graph.node? id = none →
    .noTarget id ∈ run.graph.validate.warnings

/-- A walk that starts at a node has nothing to warn of yet. -/
theorem Foretold.start (hg : run.graph.Indexed) {n : Node} (there : n ∈ run.graph.nodes) (s : σ) :
    Foretold run (.start {} n.id s) where
  pending := by
    intro id pending missing
    rw [List.mem_singleton.mp pending] at missing
    exact absurd rfl (hg.node?_eq_none_iff.mp missing n there)
  visited := fun _ h => absurd h List.not_mem_nil

/-- What a turn adds to the stack are targets of edges, and what it visits was on the stack. -/
theorem Foretold.step (hg : run.graph.Indexed) (h : Foretold run l) (step : Step answer run l l') :
    Foretold run l' := by
  cases step with
  | again seen => exact ⟨fun id there => h.pending id (List.mem_cons_of_mem _ there), h.visited⟩
  | @missing w id rest s stops t new missing =>
    exact ⟨fun other there => h.pending other (List.mem_cons_of_mem _ there),
      List.forall_mem_cons.mpr ⟨h.pending id List.mem_cons_self, h.visited⟩⟩
  | @node w id rest s s' stops t node outcome outputs new found result =>
    refine ⟨?_, List.forall_mem_cons.mpr ⟨h.pending id List.mem_cons_self, h.visited⟩⟩
    intro other there missing
    rcases List.mem_append.mp there with next | later
    · obtain ⟨e, leaves, rfl⟩ := mem_successors next
      rw [hg.outgoingEdges] at leaves
      exact Graph.noTarget_mem (List.mem_filter.mp leaves).1 missing
    · exact h.pending other (List.mem_cons_of_mem _ later) missing
  | @cut w id rest s s' stops t node e new found result =>
    exact ⟨fun _ there => absurd there List.not_mem_nil,
      List.forall_mem_cons.mpr ⟨h.pending id List.mem_cons_self, h.visited⟩⟩

theorem Foretold.steps (hg : run.graph.Indexed) (h : Foretold run l) (steps : Steps answer run l l') :
    Foretold run l' := kept_of_steps (fun h step => h.step hg step) h steps

/-- Whatever a walk meets and tolerates was warned of: an id that is no node's and is next on the stack,
a node that has no handler, and a condition that leads nowhere with either result. -/
structure Announced (run : RunContext) (l : Loop σ) : Prop where
  missing : ∀ id rest, l.stack = id :: rest → run.graph.node? id = none →
    .noTarget id ∈ run.graph.validate.warnings
  unknown : ∀ stop ∈ l.stops, stop.node.kind? = none →
    .unknownKind stop.node.id stop.node.type ∈ run.graph.validate.warnings
  branchless : ∀ stop ∈ l.stops, stop.node.isCondition = true →
    (∀ b, successors stop.node (some (.output [("result", .bool b)]))
      (run.graph.outgoingEdges stop.node.id) = []) →
    .noBranch stop.node.id ∈ run.graph.validate.warnings

theorem Foretold.announced (hg : run.graph.Indexed) (h : Foretold run l)
    (chronicle : Chronicle answer run l) : Announced run l where
  missing := fun id rest stack => h.pending id (stack ▸ List.mem_cons_self)
  unknown := fun stop there => Graph.unknownKind_mem (hg.mem (chronicle.found stop there))
  branchless := by
    intro stop there condition nowhere
    refine Graph.noBranch_mem (hg.mem (chronicle.found stop there)) condition ?_
    refine Graph.isBranch_of_branch? fun b => ?_
    have untaken := nowhere b
    rwa [successors, if_pos condition, Option.toList_eq_nil_iff] at untaken

/-- A walk over nodes only, each of which told the log about itself, unless the walk was cut short at
it. -/
structure Thorough (run : RunContext) (l : Loop σ) : Prop where
  existing : ∀ id ∈ l.walk.visited, ∃ n ∈ run.graph.nodes, n.id = id
  once : l.walk.order.Nodup
  ordered : ∀ id, id ∈ l.walk.order ↔ id ∈ l.walk.visited
  told : (entries l.trace).map (fun entry => (entry.executionId, entry.nodeId)) =
    l.served.map fun id => (run.executionId, some id)

/-- What was visited without having been cut short is part of the order. -/
theorem mem_order_of_served {id : String} (served : id ∈ l.served) : id ∈ l.walk.order := by
  unfold Loop.served at served
  split at served
  · exact served
  · exact List.dropLast_subset _ served

theorem Foretold.thorough (hg : run.graph.Indexed) (h : Foretold run l) (accounts : Accounts run {} l)
    (chronicle : Chronicle answer run l) (trail : Trail answer run l)
    (unwarned : run.graph.validate.warnings = []) : Thorough run l := by
  have order : l.walk.order = l.stops.map (·.node.id) := by simpa using accounts.order
  have silent : ∀ warning, warning ∉ run.graph.validate.warnings := by simp [unwarned]
  have existing : ∀ id ∈ l.walk.visited, ∃ n ∈ run.graph.nodes, n.id = id := by
    intro id visited
    by_contra missing
    push Not at missing
    exact silent _ (h.visited id visited (hg.node?_eq_none_iff.mpr missing))
  have known : ∀ id ∈ l.walk.order, run.graph.knows id = true := by
    intro id visited
    rw [order] at visited
    obtain ⟨stop, there, rfl⟩ := List.mem_map.mp visited
    cases kind : stop.node.kind? with
    | none => exact absurd ((h.announced hg chronicle).unknown stop there kind) (silent _)
    | some kind' => simp [Graph.knows, chronicle.found stop there, kind]
  refine ⟨existing, order ▸ accounts.once, ?_, ?_⟩
  · intro id
    rw [order, accounts.stopped_iff id]
    exact ⟨fun there => there.1, fun visited => ⟨visited, List.not_mem_nil, existing id visited⟩⟩
  · rw [trail.told, List.filter_eq_self.mpr fun id served => known id (mem_order_of_served served)]

end Loop

/-- A run that is ended with a status has that status. -/
theorem finish_status {e e' : Execution} {status : Status} {s : σ}
    (ended : ((finish e status).run answer s).1 = .ok e') : e'.status = status := by
  simp only [finish, run_bind] at ended
  split at ended
  · cases ended
  · cases ended
    rfl

theorem finish_unlogged (e : Execution) (status : Status) : (finish e status).Only Call.Unlogged := by
  refine (finish_only e status).mono fun c ofEnd => ?_
  cases c <;> trivial

/-- A run of a loaded workflow fails only for want of a trigger. -/
theorem followWorkflow_failed {settings : EngineSettings} {e e' : Execution} {w : Workflow} {s : σ}
    (ended : ((followWorkflow settings e w).run answer s).1 = .ok e') (failed : e'.status = .failed) :
    (Graph.ofWorkflow w).trigger? = none := by
  cases triggered : (Graph.ofWorkflow w).trigger? with
  | none => rfl
  | some trigger =>
    simp only [followWorkflow, triggered, run_bind] at ended
    split at ended
    · cases ended
    · rw [run_bind] at ended
      rw [finish_status ended] at failed
      cases failed

/-- A procedure that tells the log nothing adds no entries to what follows it. -/
theorem entries_bind_of_unlogged {α β : Type} {p : Proc α} (silent : p.Only Call.Unlogged)
    (f : α → Proc β) (s : σ) : entries ((p.bind f).trace answer s) =
      entries ((f (p.run answer s).1).trace answer (p.run answer s).2) := by
  rw [trace_bind, entries_append, entries_eq_nil answer silent, List.nil_append]

/-- Nor does one that follows. -/
theorem entries_bind {α β : Type} (p : Proc α) {f : α → Proc β} (silent : ∀ a, (f a).Only Call.Unlogged)
    (s : σ) : entries ((p.bind f).trace answer s) = entries (p.trace answer s) := by
  rw [trace_bind, entries_append, entries_eq_nil answer (silent _), List.append_nil]

/-- A run of a workflow with a trigger tells the log what its walk tells it. -/
theorem entries_followWorkflow (answer : Answerer σ) (settings : EngineSettings) (e : Execution)
    {w : Workflow} {trigger : Node} (triggered : (Graph.ofWorkflow w).trigger? = some trigger) (s : σ) :
    ∃ s₁, entries ((followWorkflow settings e w).trace answer s) =
      entries ((walkFrom ⟨e.id, Graph.ofWorkflow w, settings.online⟩ {} trigger.id).trace answer s₁) := by
  simp only [followWorkflow, triggered]
  -- the walk stands between a note in the journal and the end of the run, which tell the log nothing
  refine ⟨_, (entries_bind_of_unlogged ?_ _ s).trans (entries_bind _ (fun result => ?_) _)⟩
  · exact Only.ask trivial
  · obtain ⟨failure, walk⟩ := result
    cases failure with
    | some failure => exact Only.done _
    | none => exact Only.bind (Only.ask trivial) fun _ => finish_unlogged _ _

end

/-- The checks of a workflow announce what its run tolerates, at every head of the loop of its walk and so
at its end. The run that fails for want of a trigger was warned of, and so was an id that is taken off the
stack and is no node's, a visited node that has no handler, and a condition that leads nowhere with either
result. Without any warning, the walk visits nodes only, and each of them gives the log one entry, in the
order of the visits. All this leaves out at most one node, the last: the one whose settings could not be
substituted, by which the walk was cut short. There is no such node as long as the network answers with
data that can be written. -/
theorem warnings_announce_anomalies {σ : Type} (answer : Answerer σ) (settings : EngineSettings)
    (e : Execution) (w : Workflow) (s : σ) :
    let run : RunContext := ⟨e.id, Graph.ofWorkflow w, settings.online⟩
    (∀ ended, ((followWorkflow settings e w).run answer s).1 = .ok ended → ended.status = .failed →
      .noTrigger ∈ run.graph.validate.warnings) ∧
    ∀ trigger, run.graph.trigger? = some trigger →
      (∃ (s₁ : σ) (l : Loop σ), Loop.Steps answer run (.start {} trigger.id s₁) l ∧ l.stack = [] ∧
        (walkFrom run {} trigger.id).run answer s₁ = ((l.failure, l.walk), l.world) ∧
        entries ((followWorkflow settings e w).trace answer s) = entries l.trace) ∧
      ∀ (s₁ : σ) (l : Loop σ), Loop.Steps answer run (.start {} trigger.id s₁) l →
        l.Announced run ∧
        (run.graph.validate.warnings = [] → l.Thorough run) ∧
        (∀ e, l.failure = some e → ∃ stop, l.stops.getLast? = some stop ∧ stop.settings = .error e) ∧
        (NetworkWritable answer → l.failure = none ∧ l.served = l.walk.order) := by
  intro run
  have hg : run.graph.Indexed := Graph.indexed_build w.nodes w.edges
  refine ⟨fun ended result failed => Graph.noTrigger_mem (followWorkflow_failed result failed), ?_⟩
  intro trigger triggered
  constructor
  · obtain ⟨s₁, told⟩ := entries_followWorkflow answer settings e triggered s
    obtain ⟨l, steps, empty, result, trace⟩ :=
      Loop.exists_steps_walkFrom answer run {} trigger.id s₁ [] []
    rw [List.nil_append] at trace
    exact ⟨s₁, l, steps, empty, result, trace ▸ told⟩
  · intro s₁ l steps
    have accounts : l.Accounts run {} := steps.accounts hg
    have chronicle : l.Chronicle answer run := steps.chronicle hg
    have trail : l.Trail answer run :=
      (Loop.Trail.start trigger.id s₁).steps hg (.start run {} trigger.id s₁) steps
    have substituted : l.Substituted := (Loop.Substituted.start {} trigger.id s₁).steps steps
    have foretold : l.Foretold run :=
      (Loop.Foretold.start hg (List.mem_of_find?_eq_some triggered) s₁).steps hg steps
    refine ⟨foretold.announced hg chronicle, foretold.thorough hg accounts chronicle trail,
      substituted.last, ?_⟩
    intro network
    have sound : l.Sound := steps.sound network Outputs.canBeWritten_nil
    exact ⟨sound.uncut, by simp [Loop.served, sound.uncut]⟩

/-- A graph without errors and warnings, one of whose nodes is visited without telling the log anything:
its settings ask for a reply that was read and is nested too deep to be written. -/
theorem unwarned_walk_misses_entry :
    let w : Workflow :=
      { name := "w"
        nodes := [{ id := "t", type := "trigger" }, { id := "h", type := "http" },
          { id := "m", type := "email"
            settings := [("recipient", .str "\x7b\x7bcontext.outputs.h.response\x7d\x7d")] }]
        edges := [⟨"t", "h", none⟩, ⟨"h", "m", none⟩] }
    let run : RunContext := ⟨"e", Graph.ofWorkflow w, true⟩
    let script : Script := { replies := [Http.decodeResponse Http.deepReply] }
    let world := Rehearsal.start script [] [] default
    run.graph.validate = ⟨[], []⟩ ∧ run.graph.trigger?.map (·.id) = some "t" ∧
      ((walkFrom run {} "t").run Rehearsal.answer world).1.2.order = ["t", "h", "m"] ∧
      (entries ((walkFrom run {} "t").trace Rehearsal.answer world)).map (·.nodeId) =
        [some "t", some "h"] := by
  rw [Http.decodeResponse_deepReply]
  decide +kernel

end Automation
