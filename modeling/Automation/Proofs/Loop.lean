import Automation.Proofs.GraphIndex
import Automation.Proofs.Visit
import Mathlib.Logic.Relation

/-!
The loop of a walk, turn by turn. At the head of its loop a walk has a stack of ids still to be
visited; a turn takes the first of them. The turns lead to where the walk over the stack ends, with
the same exchanges. On the way the loop keeps account of the nodes that were carried out: no id twice,
and exactly the ids that the walk visited and that are nodes.
-/
namespace Automation

open Proc

/-- What the journal says about an id that is no node's. -/
def noteMissing (id : String) : Proc Unit :=
  .write .debug .engine s!"Edge target {id} does not exist, skipping"

/-- Where a walk ends: the failure that cut it short, if any, what it visited, who answered, and all
exchanges in order. -/
structure Ending (σ : Type) where
  failure : Option Failure
  walk : Walk
  world : σ
  trace : List Exchange

/-- The same end, with earlier exchanges in front. -/
def Ending.after {σ : Type} (t : List Exchange) (e : Ending σ) : Ending σ :=
  { e with trace := t ++ e.trace }

section

variable {σ : Type} (answer : Answerer σ) (run : RunContext)

/-- The end of the walk over a stack. -/
def ending (w : Walk) (stack : List String) (s : σ) : Ending σ where
  failure := ((walkStack run w stack).run answer s).1.1
  walk := ((walkStack run w stack).run answer s).1.2
  world := ((walkStack run w stack).run answer s).2
  trace := (walkStack run w stack).trace answer s

variable {w : Walk} {id : String} {rest : List String} {s s' : σ} {node : Node}

theorem ending_nil (w : Walk) (s : σ) : ending answer run w [] s = ⟨none, w, s, []⟩ := by
  rw [ending, walkStack]
  rfl

theorem ending_again (seen : id ∈ w.visited) :
    ending answer run w (id :: rest) s = ending answer run w rest s := by
  have h : w.visited.contains id = true := List.contains_iff_mem.mpr seen
  rw [ending, walkStack, dif_pos h]
  rfl

theorem ending_missing (new : id ∉ w.visited) (missing : run.graph.node? id = none) :
    ending answer run w (id :: rest) s =
      (ending answer run { w with visited := id :: w.visited } rest
        ((noteMissing id).run answer s).2).after ((noteMissing id).trace answer s) := by
  have h : ¬w.visited.contains id = true := fun hc => new (List.contains_iff_mem.mp hc)
  rw [ending, walkStack, dif_neg h, missing]
  simp only [run_bind, trace_bind]
  rfl

theorem ending_node {outcome : Option Outcome} {outputs : Outputs} (new : id ∉ w.visited)
    (found : run.graph.node? id = some node)
    (result : (visit run w.outputs node).run answer s = (.ok (outcome, outputs), s')) :
    ending answer run w (id :: rest) s =
      (ending answer run { w.enter id with outputs := outputs }
        (successors node outcome (run.graph.outgoingEdges id) ++ rest) s').after
        ((visit run w.outputs node).trace answer s) := by
  have h : ¬w.visited.contains id = true := fun hc => new (List.contains_iff_mem.mp hc)
  rw [ending, walkStack, dif_neg h, found]
  simp only [run_bind, trace_bind, result]
  rfl

theorem ending_cut {e : Failure} (new : id ∉ w.visited) (found : run.graph.node? id = some node)
    (result : (visit run w.outputs node).run answer s = (.error e, s')) :
    ending answer run w (id :: rest) s =
      ⟨some e, w.enter id, s', (visit run w.outputs node).trace answer s⟩ := by
  have h : ¬w.visited.contains id = true := fun hc => new (List.contains_iff_mem.mp hc)
  rw [ending, walkStack, dif_neg h, found]
  simp only [run_bind, trace_bind, result, run_done, trace_done, List.append_nil]

end

/-- A walk makes no other calls than those of its nodes, and tells the log about its own execution. -/
theorem walkStack_only (run : RunContext) (w : Walk) (stack : List String) :
    (walkStack run w stack).Only (Call.OfWalk run.executionId) := by
  induction w, stack using walkStack.induct run with
  | case1 w =>
    rw [walkStack]
    exact Only.done _
  | case2 w id rest seen ih =>
    rw [walkStack, dif_pos seen]
    exact ih
  | case3 w id rest new missing ih =>
    rw [walkStack, dif_neg new, missing]
    exact Only.bind (Only.ask trivial) fun _ => ih
  | case4 w id rest new node found outgoing ih =>
    rw [walkStack, dif_neg new, found]
    refine Only.bind (visit_only run w.outputs node) ?_
    intro visited
    split
    · exact Only.done _
    · exact ih _ _

/-- A node that a walk carried out: the outputs that it found, how it ended, and the exchanges. -/
structure Stop where
  node : Node
  outputs : Outputs
  result : Except Failure (Option Outcome)
  trace : List Exchange

/-- The settings of the node, as far as they could be substituted. -/
def Stop.settings (stop : Stop) : Except Failure (Fields Value) :=
  stop.outputs.resolveFields Stack.setting stop.node.settings

/-- A walk at the head of its loop, with its stack and all that it did so far. Once it was cut short
its stack is empty. -/
structure Loop (σ : Type) where
  walk : Walk
  stack : List String
  world : σ
  failure : Option Failure
  stops : List Stop
  trace : List Exchange

/-- A walk before its first turn. -/
def Loop.start {σ : Type} (w : Walk) (start : String) (s : σ) : Loop σ :=
  ⟨w, [start], s, none, [], []⟩

/-- A turn of the loop: the first id of the stack was visited before, is no node's, or is that of a
node, which is carried out or cuts the walk short. -/
inductive Loop.Step {σ : Type} (answer : Answerer σ) (run : RunContext) : Loop σ → Loop σ → Prop
  | again {w id rest s stops t} (seen : id ∈ w.visited) :
      Step answer run ⟨w, id :: rest, s, none, stops, t⟩ ⟨w, rest, s, none, stops, t⟩
  | missing {w id rest s stops t} (new : id ∉ w.visited) (missing : run.graph.node? id = none) :
      Step answer run ⟨w, id :: rest, s, none, stops, t⟩
        ⟨{ w with visited := id :: w.visited }, rest, ((noteMissing id).run answer s).2, none, stops,
          t ++ (noteMissing id).trace answer s⟩
  | node {w id rest s s' stops t node outcome outputs} (new : id ∉ w.visited)
      (found : run.graph.node? id = some node)
      (result : (visit run w.outputs node).run answer s = (.ok (outcome, outputs), s')) :
      Step answer run ⟨w, id :: rest, s, none, stops, t⟩
        ⟨{ w.enter id with outputs := outputs },
          successors node outcome (run.graph.outgoingEdges id) ++ rest, s', none,
          stops ++ [⟨node, w.outputs, .ok outcome, (visit run w.outputs node).trace answer s⟩],
          t ++ (visit run w.outputs node).trace answer s⟩
  | cut {w id rest s s' stops t node e} (new : id ∉ w.visited)
      (found : run.graph.node? id = some node)
      (result : (visit run w.outputs node).run answer s = (.error e, s')) :
      Step answer run ⟨w, id :: rest, s, none, stops, t⟩
        ⟨w.enter id, [], s', some e,
          stops ++ [⟨node, w.outputs, .error e, (visit run w.outputs node).trace answer s⟩],
          t ++ (visit run w.outputs node).trace answer s⟩

namespace Loop

variable {σ : Type} {answer : Answerer σ} {run : RunContext} {l l' : Loop σ}

/-- What every step keeps is kept by any number of steps. -/
theorem kept_of_steps {α : Type} {r : α → α → Prop} {P : α → Prop}
    (step : ∀ {a b}, P a → r a b → P b) {a b : α} (h : P a) (steps : Relation.ReflTransGen r a b) :
    P b := by
  induction steps with
  | refl => exact h
  | tail _ last ih => exact step ih last

/-- Any number of turns. -/
abbrev Steps (answer : Answerer σ) (run : RunContext) : Loop σ → Loop σ → Prop :=
  Relation.ReflTransGen (Step answer run)

/-- Where the walk ends that stands at the head of its loop. -/
def ending (answer : Answerer σ) (run : RunContext) (l : Loop σ) : Ending σ :=
  match l.failure with
  | some e => ⟨some e, l.walk, l.world, l.trace⟩
  | none => (Automation.ending answer run l.walk l.stack l.world).after l.trace

theorem ending_of_empty (h : l.stack = []) :
    l.ending answer run = ⟨l.failure, l.walk, l.world, l.trace⟩ := by
  unfold ending
  cases hf : l.failure with
  | some e => rfl
  | none =>
    simp only
    rw [h, ending_nil]
    simp [Ending.after]

/-- A turn does not change where the walk ends. -/
theorem Step.ending_eq (h : Step answer run l l') : l.ending answer run = l'.ending answer run := by
  cases h with
  | again seen =>
    simp only [ending]
    rw [ending_again answer run seen]
  | missing new missing =>
    simp only [ending]
    rw [ending_missing answer run new missing]
    simp only [Ending.after, List.append_assoc]
  | node new found result =>
    simp only [ending]
    rw [ending_node answer run new found result]
    simp only [Ending.after, List.append_assoc]
  | cut new found result =>
    simp only [ending]
    rw [ending_cut answer run new found result]
    rfl

theorem Steps.ending_eq (h : Steps answer run l l') : l.ending answer run = l'.ending answer run := by
  induction h with
  | refl => rfl
  | tail _ step ih => rw [ih, step.ending_eq]

/-- A walk that is not over has a turn, and its turns come to an end. -/
theorem exists_steps (answer : Answerer σ) (run : RunContext) (w : Walk) (stack : List String) (s : σ)
    (stops : List Stop) (t : List Exchange) :
    ∃ l, Steps answer run ⟨w, stack, s, none, stops, t⟩ l ∧ l.stack = [] := by
  induction w, stack using walkStack.induct run generalizing s stops t with
  | case1 w => exact ⟨_, .refl, rfl⟩
  | case2 w id rest seen ih =>
    obtain ⟨l, steps, empty⟩ := ih s stops t
    exact ⟨l, .head (.again (List.contains_iff_mem.mp seen)) steps, empty⟩
  | case3 w id rest new missing ih =>
    have hnew : id ∉ w.visited := fun h => new (List.contains_iff_mem.mpr h)
    obtain ⟨l, steps, empty⟩ := ih _ stops _
    exact ⟨l, .head (.missing hnew missing) steps, empty⟩
  | case4 w id rest new node found outgoing ih =>
    have hnew : id ∉ w.visited := fun h => new (List.contains_iff_mem.mpr h)
    cases result : (visit run w.outputs node).run answer s with
    | mk r s' =>
      cases r with
      | error e => exact ⟨_, .single (.cut hnew found result), rfl⟩
      | ok r =>
        obtain ⟨outcome, outputs⟩ := r
        obtain ⟨l, steps, empty⟩ := ih outcome outputs s' _ _
        exact ⟨l, .head (.node hnew found result) steps, empty⟩

/-- The turns of a walk lead to where it ends, whatever was done before it. -/
theorem exists_steps_walkFrom (answer : Answerer σ) (run : RunContext) (w : Walk) (start : String)
    (s : σ) (stops : List Stop) (t : List Exchange) :
    ∃ l, Steps answer run ⟨w, [start], s, none, stops, t⟩ l ∧ l.stack = [] ∧
      (walkFrom run w start).run answer s = ((l.failure, l.walk), l.world) ∧
      l.trace = t ++ (walkFrom run w start).trace answer s := by
  obtain ⟨l, steps, empty⟩ := exists_steps answer run w [start] s stops t
  have he : (Automation.ending answer run w [start] s).after t =
      ⟨l.failure, l.walk, l.world, l.trace⟩ := by
    rw [← ending_of_empty empty, ← steps.ending_eq]
    rfl
  have failure := congrArg Ending.failure he
  have walk := congrArg Ending.walk he
  have world := congrArg Ending.world he
  have trace := congrArg Ending.trace he
  exact ⟨l, steps, empty, Prod.ext (Prod.ext failure walk) world, trace.symm⟩

/-- What a loop keeps account of since a walk with which it began: the stops are the new part of the
order, and they are the nodes among the ids that the walk visited since. -/
structure Accounts (run : RunContext) (w₀ : Walk) (l : Loop σ) : Prop where
  order : l.walk.order = w₀.order ++ l.stops.map (·.node.id)
  once : (l.stops.map (·.node.id)).Nodup
  stopped_iff : ∀ id, id ∈ l.stops.map (·.node.id) ↔
    id ∈ l.walk.visited ∧ id ∉ w₀.visited ∧ ∃ n ∈ run.graph.nodes, n.id = id
  kept : ∀ id ∈ w₀.visited, id ∈ l.walk.visited

theorem Accounts.start (run : RunContext) (w : Walk) (start : String) (s : σ) :
    Accounts run w (.start w start s) where
  order := (List.append_nil _).symm
  once := List.nodup_nil
  stopped_iff := by
    intro id
    constructor
    · intro h
      cases h
    · rintro ⟨visited, new, _⟩
      exact absurd visited new
  kept := fun _ h => h

/-- No node was carried out at an id that is not visited. -/
theorem Accounts.not_stopped {w₀ : Walk} (h : Accounts run w₀ l) {id : String}
    (new : id ∉ l.walk.visited) : ∀ stop ∈ l.stops, stop.node.id ≠ id := by
  intro stop hstop he
  have hid : id ∈ l.stops.map (·.node.id) := List.mem_map.mpr ⟨stop, hstop, he⟩
  exact new ((h.stopped_iff id).mp hid).1

theorem Accounts.enter (hg : run.graph.Indexed) {w₀ : Walk} (h : Accounts run w₀ l) {id : String}
    {stop : Stop} (new : id ∉ l.walk.visited) (found : run.graph.node? id = some stop.node)
    (order : l'.walk.order = l.walk.order ++ [id]) (visited : l'.walk.visited = id :: l.walk.visited)
    (stops : l'.stops = l.stops ++ [stop]) : Accounts run w₀ l' := by
  have hid : stop.node.id = id := hg.id_eq found
  have hmap : l'.stops.map (·.node.id) = l.stops.map (·.node.id) ++ [id] := by
    rw [stops, List.map_append, List.map_singleton, hid]
  constructor
  · rw [order, h.order, hmap, List.append_assoc]
  · rw [hmap, List.nodup_append]
    refine ⟨h.once, List.pairwise_singleton _ id, ?_⟩
    intro a ha b hb
    rw [List.mem_singleton.mp hb]
    rintro rfl
    exact new ((h.stopped_iff a).mp ha).1
  · intro a
    rw [hmap, List.mem_append, List.mem_singleton, h.stopped_iff, visited, List.mem_cons]
    constructor
    · rintro (⟨hv, hrest⟩ | rfl)
      · exact ⟨.inr hv, hrest⟩
      · exact ⟨.inl rfl, fun hw => new (h.kept a hw), stop.node, hg.mem found, hid⟩
    · rintro ⟨rfl | hv, hrest⟩
      · exact .inr rfl
      · exact .inl ⟨hv, hrest⟩
  · intro a ha
    rw [visited]
    exact List.mem_cons_of_mem _ (h.kept a ha)

/-- Every turn keeps account. -/
theorem Accounts.step (hg : run.graph.Indexed) {w₀ : Walk} (h : Accounts run w₀ l)
    (step : Step answer run l l') : Accounts run w₀ l' := by
  cases step with
  | again seen => exact ⟨h.order, h.once, h.stopped_iff, h.kept⟩
  | missing new missing =>
    refine ⟨h.order, h.once, ?_, fun a ha => List.mem_cons_of_mem _ (h.kept a ha)⟩
    intro a
    rw [h.stopped_iff a, List.mem_cons]
    constructor
    · rintro ⟨hv, hrest⟩
      exact ⟨.inr hv, hrest⟩
    · rintro ⟨rfl | hv, hrest⟩
      · obtain ⟨_, n, hn, he⟩ := hrest
        exact absurd he (hg.node?_eq_none_iff.mp missing n hn)
      · exact ⟨hv, hrest⟩
  | node new found result => exact h.enter hg new found rfl rfl rfl
  | cut new found result => exact h.enter hg new found rfl rfl rfl

theorem Accounts.steps (hg : run.graph.Indexed) {w₀ : Walk} (h : Accounts run w₀ l)
    (steps : Steps answer run l l') : Accounts run w₀ l' :=
  kept_of_steps (fun h step => h.step hg step) h steps

/-- A walk keeps account from its start on. -/
theorem Steps.accounts (hg : run.graph.Indexed) {w : Walk} {start : String} {s : σ}
    (steps : Steps answer run (.start w start s) l) : Accounts run w l :=
  (Accounts.start run w start s).steps hg steps

end Loop
end Automation
