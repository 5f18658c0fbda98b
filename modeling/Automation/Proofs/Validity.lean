import Automation.Proofs.LogTrail
import Automation.Proofs.Rearrangement

/-!
What a graph without errors can be relied on for. The checks find an error just where nodes share an
id, and list the shared ids. Without one, an id refers to the node that has it; so a run, which looks
its trigger up by the id, carries out the trigger itself, and carries it out first.
-/
namespace Automation

open Proc

namespace Graph

variable {g : Graph}

theorem precedes_iff_le {s t : String} : precedes s t = true ↔ s ≤ t := by
  rw [precedes, Bool.not_eq_true', decide_eq_false_iff_not, String.not_lt]

/-- The repeated ids are those that more than one node has. -/
theorem Indexed.mem_repeatedIds (h : g.Indexed) {id : String} :
    id ∈ g.repeatedIds ↔ 1 < (g.nodes.map (·.id)).count id := by
  rw [repeatedIds, List.mem_mergeSort, List.mem_filter, h.keys.2 id, decide_eq_true_iff]
  exact ⟨fun there => there.2, fun several =>
    ⟨List.count_pos_iff.mp (Nat.zero_lt_of_lt several), several⟩⟩

/-- They ascend in the order of code points, so none of them is listed twice. -/
theorem Indexed.repeatedIds_ascend (h : g.Indexed) : g.repeatedIds.Pairwise (· < ·) := by
  have sorted : g.repeatedIds.Pairwise fun s t => precedes s t = true := by
    refine List.pairwise_mergeSort (fun s t u => ?_) (fun s t => ?_) _
    · simp only [precedes_iff_le]
      exact String.le_trans
    · simp only [Bool.or_eq_true, precedes_iff_le]
      exact String.le_total s t
  have once : g.repeatedIds.Nodup :=
    (List.mergeSort_perm _ _).nodup_iff.mpr (h.keys.1.filter _)
  refine (sorted.and once).imp fun ⟨before, other⟩ => String.not_le.mp fun after => ?_
  exact other (String.le_antisymm (precedes_iff_le.mp before) after)

theorem Indexed.repeatedIds_eq_nil_iff (h : g.Indexed) :
    g.repeatedIds = [] ↔ (g.nodes.map (·.id)).Nodup := by
  rw [List.eq_nil_iff_forall_not_mem, List.nodup_iff_count_le_one]
  exact forall_congr' fun id => by rw [h.mem_repeatedIds, Nat.not_lt]

theorem errors_validate (g : Graph) :
    g.validate.errors = if g.repeatedIds = [] then [] else [⟨g.repeatedIds⟩] := by
  simp [validate, List.isEmpty_iff]

theorem Indexed.isValid_iff (h : g.Indexed) :
    g.validate.isValid = true ↔ (g.nodes.map (·.id)).Nodup := by
  rw [Validation.isValid, errors_validate, ← h.repeatedIds_eq_nil_iff, List.isEmpty_iff]
  split <;> simp_all

/-- Where nodes share ids, the one error lists these. -/
theorem Indexed.errors_of_shared (h : g.Indexed) (shared : ¬(g.nodes.map (·.id)).Nodup) :
    g.validate.errors = [⟨g.repeatedIds⟩] := by
  have some_repeated : g.repeatedIds ≠ [] := fun none => shared (h.repeatedIds_eq_nil_iff.mp none)
  rw [errors_validate, if_neg some_repeated]

theorem Indexed.errorTexts_of_shared (h : g.Indexed) (shared : ¬(g.nodes.map (·.id)).Nodup) :
    g.validate.errorTexts = ["Duplicate node IDs: " ++ ", ".intercalate g.repeatedIds] := by
  rw [Validation.errorTexts, h.errors_of_shared shared]
  rfl

/-- The trigger of a graph is the first node of the definition that is one. -/
theorem trigger?_eq_some_iff {t : Node} : g.trigger? = some t ↔
    t.isTrigger = true ∧ ∃ before after, g.nodes = before ++ t :: after ∧
      ∀ n ∈ before, n.isTrigger = false := by
  simp [trigger?, List.find?_eq_some_iff_append]

end Graph

namespace Loop

variable {σ : Type} {answer : Answerer σ} {run : RunContext} {l l' : Loop σ}

/-- What was carried out stays on record, in the order in which it was. -/
theorem Step.stops_prefix (step : Step answer run l l') : l.stops <+: l'.stops := by
  cases step with
  | again seen => exact List.prefix_rfl
  | missing new missing => exact List.prefix_rfl
  | node new found result => exact List.prefix_append _ _
  | cut new found result => exact List.prefix_append _ _

/-- The first turn of a walk that starts at a node is that of the node. -/
theorem Step.first {start : String} {s : σ} {n : Node} (found : run.graph.node? start = some n)
    (step : Step answer run (.start {} start s) l) : l.stops.head?.map (·.node) = some n := by
  cases step with
  | again seen => cases seen
  | missing new missing =>
    rw [found] at missing
    cases missing
  | node new found' result =>
    rw [found] at found'
    cases found'
    rfl
  | cut new found' result =>
    rw [found] at found'
    cases found'
    rfl

/-- Once a walk that starts at a node has had a turn, the node is the first that was carried out. -/
theorem Steps.first {start : String} {s : σ} {n : Node} (found : run.graph.node? start = some n)
    (steps : Steps answer run (.start {} start s) l) :
    l = .start {} start s ∨ l.stops.head?.map (·.node) = some n := by
  induction steps with
  | refl => exact .inl rfl
  | tail _ step ih =>
    right
    rcases ih with rfl | began
    · exact step.first found
    · obtain ⟨stop, first, node⟩ := Option.map_eq_some_iff.mp began
      obtain ⟨later, stops⟩ := step.stops_prefix
      rw [← stops, List.head?_append, first]
      simpa using node

end Loop

section

variable {σ : Type}

/-- What happens without a node being carried out: no request is made, and the log is told nothing. -/
def Uneventful (exchanges : List Exchange) : Prop := requests exchanges = [] ∧ entries exchanges = []

/-- The calls that a run makes around its walk. -/
def Call.Surrounding : Call → Prop
  | .send _ | .appendLog _ => False
  | _ => True

theorem Proc.Only.uneventful {α : Type} {p : Proc α} (h : p.Only Call.Surrounding) (answer : Answerer σ)
    (s : σ) : Uneventful (p.trace answer s) := by
  constructor
  · refine requests_eq_nil answer (h.mono fun c surrounding => ?_) s
    cases c <;> trivial
  · refine entries_eq_nil answer (h.mono fun c surrounding => ?_) s
    cases c <;> trivial

theorem Uneventful.append {a b : List Exchange} (ha : Uneventful a) (hb : Uneventful b) :
    Uneventful (a ++ b) := by
  simp [Uneventful, ha.1, ha.2, hb.1, hb.2]

/-- Some exchanges with nothing of note around them. -/
def Frames (exchanges inner : List Exchange) : Prop :=
  ∃ before after, exchanges = before ++ inner ++ after ∧ Uneventful before ∧ Uneventful after

namespace Frames

variable {α β : Type} {a b c : List Exchange}

theorem trans (hab : Frames a b) (hbc : Frames b c) : Frames a c := by
  obtain ⟨before, after, rfl, quiet, quiet'⟩ := hab
  obtain ⟨before', after', rfl, quiet₁, quiet₁'⟩ := hbc
  exact ⟨before ++ before', after' ++ after, by simp only [List.append_assoc], quiet.append quiet₁,
    quiet₁'.append quiet'⟩

/-- Where what comes first carries out no node, the rest is framed. -/
theorem of_first {p : Proc α} (surrounding : p.Only Call.Surrounding) (answer : Answerer σ)
    (f : α → Proc β) (s : σ) : Frames ((p.bind f).trace answer s)
      ((f (p.run answer s).1).trace answer (p.run answer s).2) :=
  ⟨p.trace answer s, [], by rw [trace_bind, List.append_nil], surrounding.uneventful answer s, rfl, rfl⟩

/-- Where what comes last carries out no node, the start is framed. -/
theorem of_last (p : Proc α) {f : α → Proc β} (surrounding : ∀ a, (f a).Only Call.Surrounding)
    (answer : Answerer σ) (s : σ) : Frames ((p.bind f).trace answer s) (p.trace answer s) :=
  ⟨[], _, trace_bind answer p f s, ⟨rfl, rfl⟩, (surrounding _).uneventful answer _⟩

end Frames

theorem finish_surrounding (e : Execution) (status : Status) : (finish e status).Only Call.Surrounding := by
  refine (finish_only e status).mono fun c ofEnd => ?_
  cases c <;> trivial

/-- A run of a workflow that has a trigger frames the walk from there. -/
theorem followWorkflow_frames (answer : Answerer σ) (settings : EngineSettings) (e : Execution)
    {w : Workflow} {t : Node} (triggered : (Graph.ofWorkflow w).trigger? = some t) (s : σ) :
    ∃ s₁, Frames ((followWorkflow settings e w).trace answer s)
      ((walkFrom ⟨e.id, .ofWorkflow w, settings.online⟩ {} t.id).trace answer s₁) := by
  simp only [followWorkflow, triggered]
  refine ⟨_, (Frames.of_first ?_ answer _ s).trans (.of_last _ ?_ answer _)⟩
  · exact Only.ask trivial
  · rintro ⟨failure, walk⟩
    cases failure with
    | some failure => exact Only.done _
    | none => exact Only.bind (Only.ask trivial) fun _ => finish_surrounding _ _

section

variable {α β : Type} (answer : Answerer σ) (settings : EngineSettings) (asked : String) (w : Workflow)

/-- A procedure that, where it loads a workflow, goes on to run that workflow, with nothing of note
around the run. -/
def GoesOn (p : Proc α) : Prop :=
  ∀ s, ⟨.loadWorkflow asked, .ok (some w)⟩ ∈ p.trace answer s →
    ∃ e s₁, Frames (p.trace answer s) ((followWorkflow settings e w).trace answer s₁)

namespace GoesOn

variable {answer settings asked w}

theorem of_elsewhere {p : Proc α} (elsewhere : p.Only Call.LooksElsewhere) :
    GoesOn answer settings asked w p :=
  fun s loads => (elsewhere.of_mem_trace answer s loads).elim

theorem after {c : Call} {f : c.Answer → Proc α} (elsewhere : c.LooksElsewhere)
    (surrounding : c.Surrounding) (next : ∀ a, GoesOn answer settings asked w (f a)) :
    GoesOn answer settings asked w ((ask c).bind f) := by
  intro s loads
  rcases List.mem_cons.mp loads with first | later
  · obtain rfl : .loadWorkflow asked = c := congrArg Exchange.call first
    exact elsewhere.elim
  · obtain ⟨e, s₁, frames⟩ := next _ _ later
    exact ⟨e, s₁, (Frames.of_first (Only.ask surrounding) answer f s).trans frames⟩

theorem before {p : Proc α} {f : α → Proc β} (h : GoesOn answer settings asked w p)
    (elsewhere : ∀ a, (f a).Only Call.LooksElsewhere) (surrounding : ∀ a, (f a).Only Call.Surrounding) :
    GoesOn answer settings asked w (p.bind f) := by
  intro s loads
  rw [trace_bind, List.mem_append] at loads
  rcases loads with loads | loads
  · obtain ⟨e, s₁, frames⟩ := h s loads
    exact ⟨e, s₁, (Frames.of_last p surrounding answer s).trans frames⟩
  · exact ((elsewhere _).of_mem_trace answer _ loads).elim

/-- The call that finds the workflow is the only one that looks for any. -/
theorem lookup {wanted : String} {e : Execution}
    {f : Except Failure (Option Workflow) → Proc (Except Failure Execution)}
    (elsewhere : ∀ found, (f found).Only Call.LooksElsewhere)
    (follows : f (.ok (some w)) = followWorkflow settings e w) :
    GoesOn answer settings asked w ((ask (.loadWorkflow wanted)).bind f) := by
  intro s loads
  obtain ⟨found, s₁, asks⟩ : ∃ found s₁, answer (.loadWorkflow wanted) s = (found, s₁) := ⟨_, _, rfl⟩
  have framed := Frames.of_first (Only.ask (c := .loadWorkflow wanted) trivial) answer f s
  have rest : (ask (.loadWorkflow wanted)).run answer s = (found, s₁) := asks
  rw [trace_ask_bind asks] at loads
  rcases List.mem_cons.mp loads with first | later
  · cases first
    rw [rest, follows] at framed
    exact ⟨e, s₁, framed⟩
  · exact ((elsewhere found).of_mem_trace answer s₁ later).elim

theorem carryOutExecution (e : Execution) :
    GoesOn answer settings asked w (carryOutExecution settings e) := by
  refine after trivial trivial fun now => after trivial trivial fun saved => ?_
  cases saved with
  | error failure => exact of_elsewhere (Only.done _)
  | ok _ =>
    refine lookup (fun found => ?_) rfl
    match found with
    | .error failure => exact Only.done _
    | .ok none => exact Only.bind (Only.ask trivial) fun _ => finish_looksElsewhere _ .failed
    | .ok (some w) => exact followWorkflow_looksElsewhere settings _ w

/-- A run that loads a workflow runs it. -/
theorem runExecution (id : String) : GoesOn answer settings asked w (runExecution settings id) := by
  refine after trivial trivial fun loaded => ?_
  match loaded with
  | .error failure => exact of_elsewhere (Only.done _)
  | .ok none => exact of_elsewhere (Only.bind (Only.ask trivial) fun _ => Only.done _)
  | .ok (some e) =>
    refine after trivial trivial fun _ => (carryOutExecution e).before (fun _ => ?_) fun _ => ?_
    · exact Only.bind (Only.ask trivial) fun _ => Only.done _
    · exact Only.bind (Only.ask trivial) fun _ => Only.done _

end GoesOn

end

/-- A run that loads a workflow whose trigger is found under its own id walks from there, and carries out
the trigger first. -/
theorem run_starts_at_trigger {answer : Answerer σ} {w : Workflow} {t : Node} {id asked : String} {s : σ}
    (settings : EngineSettings) (triggered : (Graph.ofWorkflow w).trigger? = some t)
    (found : (Graph.ofWorkflow w).node? t.id = some t)
    (loads : ⟨.loadWorkflow asked, .ok (some w)⟩ ∈ (runExecution settings id).trace answer s) :
    ∃ (executionId : String) (s₁ : σ) (l : Loop σ),
      let run : RunContext := ⟨executionId, .ofWorkflow w, settings.online⟩
      (walkFrom run {} t.id).run answer s₁ = ((l.failure, l.walk), l.world) ∧
      Loop.Steps answer run (.start {} t.id s₁) l ∧
      Frames ((runExecution settings id).trace answer s) l.trace ∧
      l.stops.head?.map (·.node) = some t ∧ l.walk.order.head? = some t.id := by
  have hg : (Graph.ofWorkflow w).Indexed := Graph.indexed_build w.nodes w.edges
  obtain ⟨e, s₀, follows⟩ := GoesOn.runExecution id s loads
  obtain ⟨s₁, walks⟩ := followWorkflow_frames answer settings e triggered s₀
  obtain ⟨l, steps, empty, result, trace⟩ :=
    Loop.exists_steps_walkFrom answer ⟨e.id, .ofWorkflow w, settings.online⟩ {} t.id s₁ [] []
  rw [List.nil_append] at trace
  have first : l.stops.head?.map (·.node) = some t := by
    rcases steps.first found with rfl | first
    · cases empty
    · exact first
  have order : l.walk.order = l.stops.map (·.node.id) := by simpa using (steps.accounts hg).order
  refine ⟨e.id, s₁, l, result, steps, trace ▸ follows.trans walks, first, ?_⟩
  obtain ⟨stop, head, rfl⟩ := Option.map_eq_some_iff.mp first
  rw [order, List.head?_map, head]
  rfl

end

/-- A graph is valid just where no two of its nodes share an id; otherwise its one error lists each
shared id once, in the order of code points. In a valid graph an id refers to the node that has it. So
whatever run loads such a graph carries out the trigger first, which is the first node of the definition
that is one: the walk of the run begins with that node, and before and after the walk no node is carried
out. -/
theorem valid_graph_starts_at_trigger {σ : Type} (answer : Answerer σ) (nodes : List Node)
    (edges : List Edge) :
    let g := Graph.build nodes edges
    let ids := nodes.map (·.id)
    (g.validate.isValid = true ↔ ids.Nodup) ∧
    (¬ids.Nodup → ∃ repeated, g.validate.errors = [⟨repeated⟩] ∧
      g.validate.errorTexts = ["Duplicate node IDs: " ++ ", ".intercalate repeated] ∧
      repeated.Pairwise (· < ·) ∧ ∀ id, id ∈ repeated ↔ 1 < ids.count id) ∧
    (g.validate.isValid = true → (∀ n ∈ nodes, g.node? n.id = some n) ∧
      ∀ t, g.trigger? = some t →
        (t.isTrigger = true ∧ ∃ before after, nodes = before ++ t :: after ∧
          ∀ n ∈ before, n.isTrigger = false) ∧
        ∀ (w : Workflow) (settings : EngineSettings) (id asked : String) (s : σ),
          w.nodes = nodes → w.edges = edges →
          ⟨.loadWorkflow asked, .ok (some w)⟩ ∈ (runExecution settings id).trace answer s →
          ∃ (executionId : String) (s₁ : σ) (l : Loop σ),
            let run : RunContext := ⟨executionId, g, settings.online⟩
            (walkFrom run {} t.id).run answer s₁ = ((l.failure, l.walk), l.world) ∧
            Loop.Steps answer run (.start {} t.id s₁) l ∧
            Frames ((runExecution settings id).trace answer s) l.trace ∧
            l.stops.head?.map (·.node) = some t ∧ l.walk.order.head? = some t.id) := by
  intro g ids
  have hg : g.Indexed := Graph.indexed_build nodes edges
  refine ⟨hg.isValid_iff, fun shared => ?_, fun valid => ?_⟩
  · exact ⟨g.repeatedIds, hg.errors_of_shared shared, hg.errorTexts_of_shared shared,
      hg.repeatedIds_ascend, fun id => hg.mem_repeatedIds⟩
  · have distinct : ids.Nodup := hg.isValid_iff.mp valid
    have named : ∀ n ∈ nodes, g.node? n.id = some n :=
      fun n there => (hg.node?_eq_some_iff distinct).mpr ⟨there, rfl⟩
    refine ⟨named, fun t triggered => ⟨Graph.trigger?_eq_some_iff.mp triggered, ?_⟩⟩
    rintro w settings id asked s rfl rfl loads
    have found : g.node? t.id = some t := named t (List.mem_of_find?_eq_some triggered)
    exact run_starts_at_trigger settings triggered found loads

/-- Where nodes share an id, the id of the first trigger may refer to another node. -/
example :
    let g := Graph.build [{ id := "t", type := "trigger" }, { id := "t", type := "email" }] []
    g.trigger?.map (·.type) = some "trigger" ∧ (g.node? "t").map (·.type) = some "email" ∧
      g.validate.errorTexts = ["Duplicate node IDs: t"] := by
  decide +kernel

end Automation
