import Automation.Proofs.Once
import Automation.Proofs.Reach
import Automation.Proofs.Reading
import Automation.Run.Rehearsal

/-!
The log of a walk. Every node of a known kind that is carried out gives the log one entry, with its own
id and that of the execution, in the order of the visits; the entry says whether the node failed, and the
node has an output if it did not. Nodes of unknown kinds leave nothing. Only where the settings of a node
cannot be substituted is there no entry: the walk is cut short at it.
-/
namespace Automation

open Proc

/-- The entry that an exchange gave the log, whatever the log answered. -/
def Exchange.logged? : Exchange → Option LogEntry
  | ⟨.appendLog entry, _⟩ => some entry
  | _ => none

/-- The entries that the log was given in some exchanges, kept or not, in order. -/
def entries (exchanges : List Exchange) : List LogEntry := exchanges.filterMap (·.logged?)

@[simp] theorem entries_append (a b : List Exchange) : entries (a ++ b) = entries a ++ entries b := by
  simp [entries]

/-- The calls that give the log nothing. -/
def Call.Unlogged : Call → Prop
  | .appendLog _ => False
  | _ => True

theorem Call.OfNode.unlogged {c : Call} (h : c.OfNode) : c.Unlogged := by
  cases c <;> first | exact h.elim | trivial

/-- The entry of a node of an execution. -/
def NodeLog.entry (log : NodeLog) (executionId nodeId : String) : LogEntry :=
  { executionId, nodeId := some nodeId, severity := log.severity, message := log.message,
    data := log.data }

/-- What the result of a handler counts as: a failure inside it is an outcome of the node. -/
def Handled.ofResult : Except Failure Handled → Handled
  | .ok handled => handled
  | .error e => .failure "Node execution failed" e.text

/-- The severity of the entry is that of an error just where the node failed. -/
def Handled.Fitting (h : Handled) : Prop := h.log.severity = .error ↔ h.outcome.succeeded = false

theorem Handled.success_fitting {severity : LogSeverity} (h : severity ≠ .error) (output : Fields Value)
    (message : String) (data : Fields Value) : (success output severity message data).Fitting := by
  simp [Fitting, success, Outcome.succeeded, h]

theorem Handled.failure_fitting (message error : String) : (failure message error).Fitting := by
  simp [Fitting, failure, Outcome.succeeded]

section

variable {σ : Type} {answer : Answerer σ}

theorem entries_eq_nil (answer : Answerer σ) {α : Type} {p : Proc α} (h : p.Only Call.Unlogged) (s : σ) :
    entries (p.trace answer s) = [] := by
  apply h.filterMap_trace
  intro c a hc
  cases c <;> first | rfl | exact hc.elim

theorem handleHttp_fitting {t : Turn} {s : σ} {handled : Handled}
    (ended : ((handleHttp t).run answer s).1 = .ok handled) : handled.Fitting := by
  unfold handleHttp at ended
  split at ended
  · cases ended
  · rw [run_bind] at ended
    split at ended
    · cases ended
      exact Handled.success_fitting (by decide) _ _ _
    · split at ended
      · cases ended
      · cases ended
        exact Handled.failure_fitting _ _

/-- Every handler fits the severity of its entry to its outcome. -/
theorem handle_fitting {t : Turn} {kind : NodeKind} {s : σ} {handled : Handled}
    (ended : ((handle t kind).run answer s).1 = .ok handled) : handled.Fitting := by
  cases kind with
  | http => exact handleHttp_fitting ended
  | condition =>
    simp only [handle, run_done, handleCondition] at ended
    split at ended
    · cases ended
    · cases ended
      exact Handled.success_fitting (by decide) _ _ _
  | trigger | erp | email | ai | delay =>
    cases ended
    exact Handled.success_fitting (by decide) _ _ _

/-- A node of a known kind is carried out by its handler. -/
theorem run_carryOut {t : Turn} {kind : NodeKind} (known : t.node.kind? = some kind) (s : σ) :
    ((carryOut t).run answer s).1 = some (.ofResult ((handle t kind).run answer s).1) := by
  simp only [carryOut, known, run_bind]
  cases ((handle t kind).run answer s).1 <;> rfl

/-- An entry is given to the log once, whatever comes of it. -/
theorem entries_deliver (answer : Answerer σ) (entry : LogEntry) (node : String) (s : σ) :
    entries ((deliver entry node).trace answer s) = [entry] := by
  unfold deliver
  rw [trace_ask_bind rfl]
  cases (answer (.appendLog entry) s).1 <;> rfl

/-- A node gives the log the entry of its handler, and none if it has no handler. -/
theorem entries_visit (answer : Answerer σ) (run : RunContext) {outputs : Outputs} {node : Node}
    {settings : Fields Value} (substituted : outputs.resolveFields Stack.setting node.settings = .ok settings)
    (s : σ) :
    entries ((visit run outputs node).trace answer s) =
      (((carryOut ⟨node, settings, outputs, run.online⟩).run answer s).1.map fun handled =>
        handled.log.entry run.executionId node.id).toList := by
  have before := entries_eq_nil answer
    ((carryOut_only ⟨node, settings, outputs, run.online⟩).mono fun _ h => h.unlogged) s
  simp only [visit, substituted, trace_bind, entries_append, before, List.nil_append]
  cases ((carryOut ⟨node, settings, outputs, run.online⟩).run answer s).1 with
  | none => rfl
  | some handled =>
    have written : ∀ s, entries ((writeOutcome node handled.outcome).trace answer s) = [] :=
      entries_eq_nil answer (writeOutcome_only (fun _ => trivial) node handled.outcome)
    simp only [trace_bind, entries_append, written, entries_deliver]
    rfl

/-- What became of a node at its turn: its settings could not be substituted, it has no handler, or its
handler came to a result. -/
inductive Stop.Turned (answer : Answerer σ) (run : RunContext) : Stop → Prop
  | unsubstituted {node outputs e trace} (failed : outputs.resolveFields Stack.setting node.settings = .error e)
      (silent : entries trace = []) : Turned answer run ⟨node, outputs, .error e, trace⟩
  | unknown {node outputs settings trace}
      (substituted : outputs.resolveFields Stack.setting node.settings = .ok settings) (unknown : node.kind? = none)
      (silent : entries trace = []) : Turned answer run ⟨node, outputs, .ok none, trace⟩
  | handled {node outputs settings kind handled s trace}
      (substituted : outputs.resolveFields Stack.setting node.settings = .ok settings)
      (known : node.kind? = some kind)
      (ended : Handled.ofResult ((handle ⟨node, settings, outputs, run.online⟩ kind).run answer s).1 =
        handled)
      (told : entries trace = [handled.log.entry run.executionId node.id]) :
      Turned answer run ⟨node, outputs, .ok (some handled.outcome), trace⟩

/-- A visit is the turn of its node. -/
theorem visit_turned (answer : Answerer σ) (run : RunContext) (outputs : Outputs) (node : Node) (s : σ) :
    Stop.Turned answer run ⟨node, outputs, ((visit run outputs node).run answer s).1.map Prod.fst,
      (visit run outputs node).trace answer s⟩ := by
  cases substituted : outputs.resolveFields Stack.setting node.settings with
  | error e =>
    rw [visit_of_error substituted]
    exact .unsubstituted substituted rfl
  | ok settings =>
    have told := entries_visit answer run substituted s
    rw [run_visit_of_ok answer substituted]
    cases known : node.kind? with
    | none =>
      have idle : carryOut ⟨node, settings, outputs, run.online⟩ = .done none := by
        simp [carryOut, known]
      rw [idle] at told ⊢
      exact .unknown substituted known told
    | some kind =>
      rw [run_carryOut known] at told ⊢
      exact .handled substituted known rfl told

namespace Stop.Turned

variable {run : RunContext} {stop : Stop}

/-- The node gives the log one entry that bears its ids, if its settings could be substituted and it is
of a known kind, and else none. -/
theorem told (h : stop.Turned answer run) :
    (entries stop.trace).map (fun entry => (entry.executionId, entry.nodeId)) =
      if stop.result.isOk && stop.node.kind?.isSome then [(run.executionId, some stop.node.id)] else [] := by
  cases h with
  | unsubstituted failed silent => simp [silent, Except.isOk, Except.toBool]
  | unknown substituted unknown silent => simp [silent, unknown]
  | handled substituted known ended told => simp [told, known, Except.isOk, Except.toBool, NodeLog.entry]

/-- Its entry is that of an error just where the node has no output. -/
theorem severe (h : stop.Turned answer run) {entry : LogEntry} (told : entry ∈ entries stop.trace) :
    entry.nodeId = some stop.node.id ∧
      (entry.severity = .error ↔ ∀ fields, stop.result ≠ .ok (some (.output fields))) := by
  cases h with
  | unsubstituted failed silent => simp [silent] at told
  | unknown substituted unknown silent => simp [silent] at told
  | @handled node outputs settings kind handled s trace substituted known ended only =>
    have fitting : handled.Fitting := by
      rw [← ended]
      cases result : ((handle ⟨node, settings, outputs, run.online⟩ kind).run answer s).1 with
      | ok handled => exact handle_fitting result
      | error e => exact Handled.failure_fitting _ _
    simp only [only, List.mem_singleton] at told
    subst told
    refine ⟨rfl, fitting.trans ?_⟩
    cases handled.outcome <;> simp [Outcome.succeeded]

end Stop.Turned

end

/-- A node has an output after its turn if it had one before or ends well. -/
theorem Outputs.mem_keys_after {outputs : Outputs} {node : Node} {outcome : Option Outcome} {id : String} :
    id ∈ Fields.keys (outputs.after node outcome) ↔
      id ∈ Fields.keys outputs ∨ id = node.id ∧ ∃ fields, outcome = some (.output fields) := by
  cases outcome with
  | none => simp [after]
  | some outcome =>
    cases outcome with
    | error text => simp [after, keepOutput]
    | output fields => simp [after, keepOutput, Fields.mem_keys_insert]

/-- Whether an id is that of a node of a known kind. -/
def Graph.knows (g : Graph) (id : String) : Bool := ((g.node? id).bind Node.kind?).isSome

namespace Loop

variable {σ : Type} {answer : Answerer σ} {run : RunContext} {l l' : Loop σ}

/-- The nodes that were visited, without the one at which the walk was cut short. -/
def served (l : Loop σ) : List String :=
  match l.failure with
  | none => l.walk.order
  | some _ => l.walk.order.dropLast

/-- What a walk leaves behind: the turns of its nodes; an entry in the log for each node of a known kind,
in the order of the visits, which is that of an error just where the node has no output; and the outputs
of the nodes that ended well. -/
structure Trail (answer : Answerer σ) (run : RunContext) (l : Loop σ) : Prop where
  turned : ∀ stop ∈ l.stops, stop.Turned answer run
  told : (entries l.trace).map (fun entry => (entry.executionId, entry.nodeId)) =
    (l.served.filter run.graph.knows).map fun id => (run.executionId, some id)
  severe : ∀ entry ∈ entries l.trace, ∀ id, entry.nodeId = some id →
    (entry.severity = .error ↔ id ∉ l.walk.outputs.keys)
  kept : ∀ id, id ∈ l.walk.outputs.keys ↔
    ∃ stop ∈ l.stops, stop.node.id = id ∧ ∃ fields, stop.result = .ok (some (.output fields))

theorem Trail.start (start : String) (s : σ) : Trail answer run (.start {} start s) := by
  constructor <;> simp [Loop.start, served, entries, Fields.keys]

/-- Every entry so far bears the id of a visited node. -/
theorem Trail.served_of_entry (h : Trail answer run l) {entry : LogEntry}
    (told : entry ∈ entries l.trace) {id : String} (named : entry.nodeId = some id) : id ∈ l.served := by
  have there : (entry.executionId, entry.nodeId) ∈
      (entries l.trace).map fun entry => (entry.executionId, entry.nodeId) := List.mem_map_of_mem told
  rw [h.told] at there
  obtain ⟨other, served, same⟩ := List.mem_map.mp there
  have : other = id := by simpa [named] using congrArg Prod.snd same
  rw [← this]
  exact (List.mem_filter.mp served).1

/-- A further turn is entered in the trail. -/
theorem Trail.enter (h : Trail answer run l) (order : l.walk.order = l.stops.map (·.node.id)) {stop : Stop}
    (turned : stop.Turned answer run) (new : stop.node.id ∉ l.walk.order)
    (found : run.graph.node? stop.node.id = some stop.node) (uncut : l.failure = none)
    (stops : l'.stops = l.stops ++ [stop]) (trace : l'.trace = l.trace ++ stop.trace)
    (served : l'.served = if stop.result.isOk then l.walk.order ++ [stop.node.id] else l.walk.order)
    (outputs : ∀ id, id ∈ l'.walk.outputs.keys ↔ id ∈ l.walk.outputs.keys ∨
      id = stop.node.id ∧ ∃ fields, stop.result = .ok (some (.output fields))) :
    Trail answer run l' := by
  have before : l.served = l.walk.order := by simp [Loop.served, uncut]
  have fresh : stop.node.id ∉ l.walk.outputs.keys := by
    intro there
    obtain ⟨other, earlier, same, -⟩ := (h.kept _).mp there
    rw [order, ← same] at new
    exact new (List.mem_map_of_mem earlier)
  have known : run.graph.knows stop.node.id = stop.node.kind?.isSome := by simp [Graph.knows, found]
  constructor
  · simp only [stops, List.mem_append, List.mem_singleton]
    rintro other (there | rfl)
    · exact h.turned other there
    · exact turned
  · rw [trace, entries_append, List.map_append, h.told, turned.told, served, before]
    cases stop.result.isOk <;> cases hk : stop.node.kind?.isSome <;> simp [known, hk]
  · simp only [trace, entries_append, List.mem_append]
    rintro entry (there | there) id named
    · have visited := h.served_of_entry there named
      rw [before] at visited
      have other : id ≠ stop.node.id := by
        rintro rfl
        exact new visited
      rw [h.severe entry there id named, outputs]
      simp [other]
    · obtain ⟨named', severe⟩ := turned.severe there
      rw [named, Option.some.injEq] at named'
      rw [severe, outputs, named']
      simp [fresh]
  · intro id
    rw [outputs, h.kept, stops]
    simp only [List.mem_append, List.mem_singleton, or_and_right, exists_or, exists_eq_left]
    rw [eq_comm]

@[simp] theorem entries_noteMissing (id : String) (s : σ) :
    entries ((noteMissing id).trace answer s) = [] := rfl

/-- Every turn leaves its trail. -/
theorem Trail.step (hg : run.graph.Indexed) (accounts : Accounts run {} l) (h : Trail answer run l)
    (step : Step answer run l l') : Trail answer run l' := by
  have order : l.walk.order = l.stops.map (·.node.id) := by simpa using accounts.order
  have unvisited : ∀ id, id ∉ l.walk.visited → id ∉ l.walk.order := by
    intro id new there
    rw [order, accounts.stopped_iff] at there
    exact new there.1
  cases step with
  | again seen => exact ⟨h.turned, h.told, h.severe, h.kept⟩
  | missing new missing =>
    refine ⟨h.turned, ?_, ?_, h.kept⟩
    · simpa [served] using h.told
    · simpa using h.severe
  | @node w id rest s s' stops t node outcome outputs new found result =>
    have same : node.id = id := hg.id_eq found
    have turned := visit_turned answer run w.outputs node s
    rw [result] at turned
    refine h.enter order turned (unvisited _ (same ▸ new)) (same ▸ found) rfl rfl rfl ?_ ?_
    · simp [served, Walk.enter, same, Except.map, Except.isOk, Except.toBool]
    · intro other
      rw [(visit_ok answer result).1]
      simp [Outputs.mem_keys_after, Except.map]
  | @cut w id rest s s' stops t node e new found result =>
    have same : node.id = id := hg.id_eq found
    have turned := visit_turned answer run w.outputs node s
    rw [result] at turned
    refine h.enter order turned (unvisited _ (same ▸ new)) (same ▸ found) rfl rfl rfl ?_ ?_
    · simp [served, Walk.enter, Except.map, Except.isOk, Except.toBool]
    · intro other
      simp [Walk.enter, Except.map]

theorem Trail.steps (hg : run.graph.Indexed) (accounts : Accounts run {} l) (h : Trail answer run l)
    (steps : Steps answer run l l') : Trail answer run l' := by
  induction steps with
  | refl => exact h
  | tail steps step ih => exact ih.step hg (accounts.steps hg steps) step

end Loop

/-- The effects of a walk from an empty state, node by node, at every head of its loop and so at its end.
Each visited node of a known kind has given the log one entry, in the order of the visits, with its id and
that of the execution, and a node of an unknown kind has given it none; the entry is that of an error just
where the node has no output; and outputs have just the nodes that ended well. All this leaves out at most
one node, the last: the one whose settings could not be substituted, by which the walk was cut short.
There is no such node as long as the network answers with data that can be written. -/
theorem walk_leaves_trail {σ : Type} (answer : Answerer σ) (executionId : String) (nodes : List Node)
    (edges : List Edge) (online : Bool) (start : String) (s : σ) :
    let run : RunContext := ⟨executionId, Graph.build nodes edges, online⟩
    (∃ l : Loop σ, Loop.Steps answer run (.start {} start s) l ∧ l.stack = [] ∧
      (walkFrom run {} start).run answer s = ((l.failure, l.walk), l.world) ∧
      (walkFrom run {} start).trace answer s = l.trace) ∧
    ∀ l : Loop σ, Loop.Steps answer run (.start {} start s) l →
      l.walk.order.Nodup ∧
      (∀ id, id ∈ l.walk.order ↔ id ∈ l.walk.visited ∧ ∃ n ∈ nodes, n.id = id) ∧
      l.walk.order = l.stops.map (·.node.id) ∧
      l.Trail answer run ∧
      (∀ e, l.failure = some e → ∃ stop, l.stops.getLast? = some stop ∧ stop.settings = .error e) ∧
      (NetworkWritable answer → l.failure = none ∧ l.served = l.walk.order) := by
  intro run
  have hg : run.graph.Indexed := Graph.indexed_build nodes edges
  constructor
  · obtain ⟨l, steps, empty, result, trace⟩ := Loop.exists_steps_walkFrom answer run {} start s [] []
    exact ⟨l, steps, empty, result, by simpa using trace.symm⟩
  · intro l steps
    have begun : (Loop.start {} start s).Accounts run {} := .start run {} start s
    have accounts : l.Accounts run {} := begun.steps hg steps
    have trail : l.Trail answer run := (Loop.Trail.start start s).steps hg begun steps
    have substituted : l.Substituted := (Loop.Substituted.start {} start s).steps steps
    have order : l.walk.order = l.stops.map (·.node.id) := by simpa using accounts.order
    refine ⟨?_, ?_, order, trail, substituted.last, ?_⟩
    · rw [order]
      exact accounts.once
    · intro id
      rw [order, accounts.stopped_iff id]
      simp [run, Graph.build]
    · intro network
      have sound : l.Sound :=
        Loop.kept_of_steps (fun h step => h.step network step) ⟨rfl, Outputs.canBeWritten_nil⟩ steps
      exact ⟨sound.uncut, by simp [Loop.served, sound.uncut]⟩

/-- A node of a known kind that is visited and leaves no entry: its settings ask for a reply that was read and
is nested too deep to be written. -/
theorem walk_misses_entry :
    let run : RunContext := ⟨"e", Graph.build
      [{ id := "t", type := "trigger" }, { id := "h", type := "http" },
        { id := "m", type := "email"
          settings := [("recipient", .str "\x7b\x7bcontext.outputs.h.response\x7d\x7d")] }]
      [⟨"t", "h", none⟩, ⟨"h", "m", none⟩], true⟩
    let script : Script := { replies := [Http.decodeResponse Http.deepReply] }
    let world := Rehearsal.start script [] [] default
    ((walkFrom run {} "t").run Rehearsal.answer world).1.2.order = ["t", "h", "m"] ∧
      run.graph.knows "m" = true ∧
      (entries ((walkFrom run {} "t").trace Rehearsal.answer world)).map (·.nodeId) =
        [some "t", some "h"] := by
  rw [Http.decodeResponse_deepReply]
  decide +kernel

end Automation
