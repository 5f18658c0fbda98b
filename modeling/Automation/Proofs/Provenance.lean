import Automation.Proofs.Forwarding
import Automation.Proofs.LogTrail
import Mathlib.Data.List.Nodup

/-!
Where the data comes from that a node works with. The outputs that a node finds at its turn are those of
the nodes visited before it that ended well, and nothing else: neither its own nor one of a node that
comes later. An output stays as it was written, so what a node found can be read off the outputs with
which the walk ends.
-/
namespace Automation

open Proc
open Placeholder (Spells)

/-- What a node leaves behind for those after it: its output under its id, if it ended well. -/
def Stop.kept? (stop : Stop) : Option (String × Value) :=
  match stop.result with
  | .ok (some (.output fields)) => some (stop.node.id, .dict fields)
  | _ => none

/-- What several nodes leave behind. -/
def keptBy (stops : List Stop) : Outputs := stops.filterMap Stop.kept?

theorem Stop.kept?_eq_some_iff {stop : Stop} {id : String} {value : Value} :
    stop.kept? = some (id, value) ↔
      stop.node.id = id ∧ ∃ fields, stop.result = .ok (some (.output fields)) ∧ value = .dict fields := by
  unfold kept?
  split
  · next fields ended => simp [ended, eq_comm]
  · next unkept =>
    simp only [reduceCtorEq, false_iff]
    rintro ⟨-, fields, ended, -⟩
    exact unkept fields ended

theorem keptBy_append (stops stops' : List Stop) :
    keptBy (stops ++ stops') = keptBy stops ++ keptBy stops' :=
  List.filterMap_append

theorem keys_keptBy (stops : List Stop) : (keptBy stops).keys.Sublist (stops.map (·.node.id)) := by
  induction stops with
  | nil => exact .slnil
  | cons stop stops ih =>
    cases kept : stop.kept? with
    | none => simpa [keptBy, kept] using ih.cons stop.node.id
    | some field =>
      obtain ⟨id, value⟩ := field
      obtain ⟨rfl, -⟩ := Stop.kept?_eq_some_iff.mp kept
      simpa [keptBy, kept, Fields.keys] using ih

/-- Of nodes with different ids, each has its own output and no other. -/
theorem get?_keptBy {stops : List Stop} (once : (stops.map (·.node.id)).Nodup) {id : String}
    {value : Value} : Fields.get? (keptBy stops) id = some value ↔
      ∃ stop ∈ stops, stop.node.id = id ∧
        ∃ fields, stop.result = .ok (some (.output fields)) ∧ value = .dict fields := by
  rw [Fields.get?_eq_some_iff ((keys_keptBy stops).nodup once), keptBy, List.mem_filterMap]
  simp only [Stop.kept?_eq_some_iff]

/-- A node without an output so far adds what it leaves behind. -/
theorem Outputs.after_of_notMem {outputs : Outputs} {node : Node} {outcome : Option Outcome}
    (new : node.id ∉ Fields.keys outputs) (found : Outputs) (trace : List Exchange) :
    outputs.after node outcome = outputs ++ keptBy [⟨node, found, .ok outcome, trace⟩] := by
  cases outcome with
  | none => simp [after, keptBy, Stop.kept?]
  | some outcome =>
    cases outcome with
    | error text => simp [after, keepOutput, keptBy, Stop.kept?]
    | output fields => simp [after, keepOutput, keptBy, Stop.kept?, Fields.insert_of_notMem new]

section

variable {σ : Type}

/-- The node was visited with the outputs that it found: that visit made its exchanges and had its
result. -/
structure Stop.VisitedIn (answer : Answerer σ) (run : RunContext) (s : σ) (stop : Stop) : Prop where
  result : stop.result = ((visit run stop.outputs stop.node).run answer s).1.map Prod.fst
  trace : stop.trace = (visit run stop.outputs stop.node).trace answer s

/-- The node was handed to the handler of its kind, with settings in which the placeholders were replaced
from the outputs that it found. Its exchanges begin with those of the handler, the log was given the one entry
that the handler made of these settings, and the node ended as the handler did. -/
structure Stop.HandedOver (answer : Answerer σ) (run : RunContext) (stop : Stop) (kind : NodeKind)
    (settings : Fields Value) (s : σ) : Prop where
  resolved : stop.outputs.resolveFields Stack.setting stop.node.settings = .ok settings
  did : (handle ⟨stop.node, settings, stop.outputs, run.online⟩ kind).trace answer s <+: stop.trace
  told : entries stop.trace = [(Handled.ofResult
    ((handle ⟨stop.node, settings, stop.outputs, run.online⟩ kind).run answer s).1).log.entry run.executionId
      stop.node.id]
  ended : stop.result = .ok (some (Handled.ofResult
    ((handle ⟨stop.node, settings, stop.outputs, run.online⟩ kind).run answer s).1).outcome)

theorem Stop.VisitedIn.handedOver {answer : Answerer σ} {run : RunContext} {s : σ} {stop : Stop}
    (h : stop.VisitedIn answer run s) {kind : NodeKind} (known : stop.node.kind? = some kind)
    {outcome : Option Outcome} (dispatched : stop.result = .ok outcome) :
    ∃ settings, stop.HandedOver answer run kind settings s := by
  cases resolved : stop.outputs.resolveFields Stack.setting stop.node.settings with
  | error e =>
    have failed := h.result
    rw [visit_of_error resolved, dispatched] at failed
    cases failed
  | ok settings =>
    refine ⟨settings, resolved, ?_, ?_, ?_⟩
    · rw [h.trace]
      simp only [visit, resolved, carryOut, known, trace_bind, List.append_assoc]
      exact List.prefix_append _ _
    · rw [h.trace, entries_visit answer run resolved, run_carryOut known]
      rfl
    · rw [h.result, run_visit_of_ok answer resolved, run_carryOut known]
      rfl

/-- How a text is rendered from its cut: a reference to a hidden node leaves nothing, and every other one what
it stands for. -/
inductive Renders (hidden : String → Prop) (value : Placeholder → Except Failure (List Char)) :
    List Hole → List Char → List Char → Prop
  | plain (last : List Char) : Renders hidden value [] last last
  | blank {hole holes last cs} (unseen : hidden (String.ofList hole.reference.node))
      (rest : Renders hidden value holes last cs) : Renders hidden value (hole :: holes) last (hole.before ++ cs)
  | shown {hole holes last text cs} (seen : ¬hidden (String.ofList hole.reference.node))
      (stands : value hole.reference = .ok text) (rest : Renders hidden value holes last cs) :
      Renders hidden value (hole :: holes) last (hole.before ++ text ++ cs)

theorem renders_of_weave {hidden : String → Prop} {value : Placeholder → Except Failure (List Char)}
    (blank : ∀ p : Placeholder, hidden (String.ofList p.node) → value p = .ok []) {holes : List Hole}
    {last cs : List Char} (woven : weave value holes last = .ok cs) : Renders hidden value holes last cs := by
  induction holes generalizing cs with
  | nil =>
    cases woven
    exact .plain last
  | cons hole holes ih =>
    rw [weave] at woven
    cases stands : value hole.reference with
    | error e => simp [stands] at woven
    | ok text =>
      cases tail : weave value holes last with
      | error e => simp [stands, tail, Except.map] at woven
      | ok rest =>
        simp only [stands, tail, Except.map, Except.ok.injEq] at woven
        subst woven
        by_cases unseen : hidden (String.ofList hole.reference.node)
        · obtain rfl : text = [] := Except.ok.inj (stands.symm.trans (blank _ unseen))
          rw [List.append_nil]
          exact .blank unseen (ih tail)
        · exact .shown unseen stands (ih tail)

namespace Loop

variable {answer : Answerer σ} {run : RunContext} {l l' : Loop σ}

/-- What is on record about the nodes that were carried out, since a walk began with nothing: each is the
one to which its id refers and was visited, with what those before it left behind. -/
structure Chronicle (answer : Answerer σ) (run : RunContext) (l : Loop σ) : Prop where
  found : ∀ stop ∈ l.stops, run.graph.node? stop.node.id = some stop.node
  visited : ∀ stop ∈ l.stops, ∃ s, stop.VisitedIn answer run s
  outputs : l.walk.outputs = keptBy l.stops
  sights : ∀ before stop after, l.stops = before ++ stop :: after → stop.outputs = keptBy before

theorem Chronicle.start (start : String) (s : σ) : Chronicle answer run (.start {} start s) where
  found := fun _ h => absurd h List.not_mem_nil
  visited := fun _ h => absurd h List.not_mem_nil
  outputs := rfl
  sights := fun before stop after h => by cases before <;> cases h

/-- A further node is put on record. -/
theorem Chronicle.enter (h : Chronicle answer run l) {stop : Stop} {s : σ}
    (found : run.graph.node? stop.node.id = some stop.node) (visited : stop.VisitedIn answer run s)
    (sight : stop.outputs = l.walk.outputs) (stops : l'.stops = l.stops ++ [stop])
    (outputs : l'.walk.outputs = l.walk.outputs ++ keptBy [stop]) : Chronicle answer run l' := by
  constructor
  · rw [stops]
    intro other there
    rcases List.mem_append.mp there with there | there
    · exact h.found other there
    · rw [List.mem_singleton.mp there]
      exact found
  · rw [stops]
    intro other there
    rcases List.mem_append.mp there with there | there
    · exact h.visited other there
    · rw [List.mem_singleton.mp there]
      exact ⟨s, visited⟩
  · rw [outputs, stops, keptBy_append, h.outputs]
  · intro before other after split
    rw [stops] at split
    -- either the new node is the one in question, or it is the last of those after it
    rcases List.eq_nil_or_concat after with rfl | ⟨front, last, rfl⟩
    · obtain ⟨rfl, same⟩ := List.append_inj' split rfl
      rw [← List.singleton_inj.mp same, sight, h.outputs]
    · rw [List.concat_eq_append, ← List.cons_append, ← List.append_assoc] at split
      exact h.sights before other front (List.append_inj' split rfl).1

/-- Every turn keeps the record. -/
theorem Chronicle.step (hg : run.graph.Indexed) (accounts : Accounts run {} l)
    (h : Chronicle answer run l) (step : Step answer run l l') : Chronicle answer run l' := by
  -- an output is written once: a node that was not visited has none to be replaced
  have unkept : ∀ id, id ∉ l.walk.visited → id ∉ l.walk.outputs.keys := by
    intro id new there
    rw [h.outputs] at there
    exact new ((accounts.stopped_iff id).mp ((keys_keptBy l.stops).subset there)).1
  cases step with
  | again seen => exact ⟨h.found, h.visited, h.outputs, h.sights⟩
  | missing new missing => exact ⟨h.found, h.visited, h.outputs, h.sights⟩
  | @node w id rest s s' stops t node outcome outputs new found result =>
    have same : node.id = id := hg.id_eq found
    refine h.enter (s := s) (same ▸ found) ⟨by rw [result]; rfl, rfl⟩ rfl rfl ?_
    rw [(visit_ok answer result).1]
    exact Outputs.after_of_notMem (unkept _ (same ▸ new)) _ _
  | @cut w id rest s s' stops t node e new found result =>
    have same : node.id = id := hg.id_eq found
    exact h.enter (s := s) (same ▸ found) ⟨by rw [result]; rfl, rfl⟩ rfl rfl (List.append_nil _).symm

/-- A walk from an empty state keeps the record from its start on. -/
theorem Steps.chronicle (hg : run.graph.Indexed) {start : String} {s : σ}
    (steps : Steps answer run (.start {} start s) l) : Chronicle answer run l := by
  induction steps with
  | refl => exact .start start s
  | tail steps step ih => exact ih.step hg (Steps.accounts hg steps) step

/-- The ids of which a node sees nothing at its turn: its own, those of nodes that come after it, those
that are not visited, and those of nodes before it that did not end well. -/
inductive OutOfSight (l : Loop σ) (before : List Stop) (stop : Stop) (after : List Stop) : String → Prop
  | itself : OutOfSight l before stop after stop.node.id
  | later {other} (later : other ∈ after) : OutOfSight l before stop after other.node.id
  | unvisited {id} (unvisited : id ∉ l.walk.order) : OutOfSight l before stop after id
  | failed {other} (earlier : other ∈ before)
      (failed : ∀ fields, other.result ≠ .ok (some (.output fields))) :
      OutOfSight l before stop after other.node.id

/-- What a node sees at its turn, after the nodes that were visited before it. The settings that its
handler receives are resolved over the outputs of those before it that ended well. These can still be
read off the outputs of the walk later on. In each text that the handler receives, nothing stands in the place
of a reference to anything else, and a text that is such a reference alone is empty. -/
structure Outlook (answer : Answerer σ) (run : RunContext) (l : Loop σ) (before : List Stop) (stop : Stop)
    (after : List Stop) : Prop where
  handed : ∀ kind outcome, stop.node.kind? = some kind → stop.result = .ok outcome →
    ∃ settings s, stop.HandedOver answer run kind settings s
  sees : ∀ id value, stop.outputs.get? id = some value ↔ ∃ earlier ∈ before, earlier.node.id = id ∧
    ∃ fields, earlier.result = .ok (some (.output fields)) ∧ value = .dict fields
  lasting : ∀ id value, stop.outputs.get? id = some value ↔
    id ∈ before.map (·.node.id) ∧ l.walk.outputs.get? id = some value
  rendered : ∀ kind settings s, stop.HandedOver answer run kind settings s → ∀ name text,
    stop.node.settings.get? name = some (.str text) → ∃ holes last cs, Cut text.toList holes last ∧
      Renders (OutOfSight l before stop after) (stop.outputs.inserted Stack.setting) holes last cs ∧
      settings.get? name = some (.str (String.ofList cs))
  blank : ∀ kind settings s, stop.HandedOver answer run kind settings s → ∀ name text (p : Placeholder),
    stop.node.settings.get? name = some (.str text) → Spells p text.toList →
    OutOfSight l before stop after (String.ofList p.node) → settings.get? name = some (.str "")

/-- Nodes are told apart by their ids. -/
theorem Accounts.apart {w₀ : Walk} (accounts : Accounts run w₀ l) {before after : List Stop} {stop : Stop}
    (split : l.stops = before ++ stop :: after) :
    (before.map (·.node.id)).Nodup ∧
      ∀ earlier ∈ before, ∀ other ∈ stop :: after, earlier.node.id ≠ other.node.id := by
  have once := accounts.once
  rw [split, List.map_append, List.nodup_append] at once
  exact ⟨once.1, fun earlier there other here =>
    once.2.2 _ (List.mem_map_of_mem there) _ (List.mem_map_of_mem here)⟩

/-- A node finds the outputs of the nodes before it that ended well, and no others. -/
theorem Chronicle.sees (accounts : Accounts run {} l) (h : Chronicle answer run l)
    {before after : List Stop} {stop : Stop} (split : l.stops = before ++ stop :: after) (id : String)
    (value : Value) : stop.outputs.get? id = some value ↔ ∃ earlier ∈ before, earlier.node.id = id ∧
      ∃ fields, earlier.result = .ok (some (.output fields)) ∧ value = .dict fields := by
  rw [h.sights before stop after split, get?_keptBy (accounts.apart split).1]

theorem Chronicle.lasting (accounts : Accounts run {} l) (h : Chronicle answer run l)
    {before after : List Stop} {stop : Stop} (split : l.stops = before ++ stop :: after) (id : String)
    (value : Value) : stop.outputs.get? id = some value ↔
      id ∈ before.map (·.node.id) ∧ l.walk.outputs.get? id = some value := by
  rw [h.sees accounts split, h.outputs, get?_keptBy accounts.once, split]
  constructor
  · rintro ⟨earlier, there, rfl, kept⟩
    exact ⟨List.mem_map_of_mem there, earlier, List.mem_append_left _ there, rfl, kept⟩
  · rintro ⟨named, other, there, rfl, kept⟩
    obtain ⟨earlier, here, same⟩ := List.mem_map.mp named
    rcases List.mem_append.mp there with there | there
    · exact ⟨other, there, rfl, kept⟩
    · exact absurd same ((accounts.apart split).2 earlier here other there)

/-- What is out of a node's sight has no output there. -/
theorem Chronicle.outOfSight (accounts : Accounts run {} l) (h : Chronicle answer run l)
    {before after : List Stop} {stop : Stop} (split : l.stops = before ++ stop :: after) {id : String}
    (hidden : l.OutOfSight before stop after id) : stop.outputs.get? id = none := by
  obtain ⟨once, apart⟩ := accounts.apart split
  apply Option.eq_none_iff_forall_ne_some.mpr
  intro value seen
  obtain ⟨earlier, there, same, fields, ended, -⟩ := (h.sees accounts split id value).mp seen
  cases hidden with
  | itself => exact apart earlier there stop List.mem_cons_self same
  | later later => exact apart earlier there _ (List.mem_cons_of_mem _ later) same
  | unvisited unvisited =>
    have order : l.walk.order = l.stops.map (·.node.id) := by simpa using accounts.order
    rw [order, split, ← same] at unvisited
    exact unvisited (List.mem_map_of_mem (List.mem_append_left _ there))
  | failed there' failed =>
    rw [List.inj_on_of_nodup_map once there there' same] at ended
    exact failed fields ended

/-- A reference to what is out of a node's sight stands for nothing there. -/
theorem Chronicle.inserted (accounts : Accounts run {} l) (h : Chronicle answer run l)
    {before after : List Stop} {stop : Stop} (split : l.stops = before ++ stop :: after) (p : Placeholder)
    (hidden : l.OutOfSight before stop after (String.ofList p.node)) :
    stop.outputs.inserted Stack.setting p = .ok [] := by
  simp [Outputs.inserted, Outputs.lookup, h.outOfSight accounts split hidden, Value.inserted]

theorem Chronicle.outlook (accounts : Accounts run {} l) (h : Chronicle answer run l)
    {before after : List Stop} {stop : Stop} (split : l.stops = before ++ stop :: after) :
    l.Outlook answer run before stop after where
  handed kind outcome known dispatched := by
    have there : stop ∈ l.stops := by simp [split]
    obtain ⟨s, visited⟩ := h.visited stop there
    obtain ⟨settings, handed⟩ := visited.handedOver known dispatched
    exact ⟨settings, s, handed⟩
  sees := h.sees accounts split
  lasting := h.lasting accounts split
  rendered kind settings s handed name text given := by
    obtain ⟨v, resolved, received⟩ := Outputs.exists_resolve handed.resolved given
    obtain ⟨holes, last, cut, filled⟩ := exists_cut text.toList
    rw [Outputs.resolve, Outputs.resolveText, filled] at resolved
    cases woven : weave (stop.outputs.inserted Stack.setting) holes last with
    | error e => simp [woven] at resolved
    | ok cs =>
      simp only [woven, Except.ok.injEq] at resolved
      subst resolved
      exact ⟨holes, last, cs, cut, renders_of_weave (h.inserted accounts split) woven, received⟩
  blank kind settings s handed name text p given spelt hidden := by
    refine Outputs.get?_resolveFields handed.resolved given ?_
    rw [Outputs.resolve, Outputs.resolveText_eq spelt, h.inserted accounts split p hidden]
    rfl

end Loop

/-- What the nodes of a walk from an empty state work with, at every head of its loop and so at its end.
The handler of a node receives its settings with the placeholders replaced from the outputs of exactly
those nodes that were visited before it and ended well. The same outputs can be read off those of the walk
later on. In the settings that the handler receives, nothing stands in the place of a reference to the node
itself, or to one that is visited later, not at all or without success. -/
theorem settings_see_predecessors {σ : Type} (answer : Answerer σ) (executionId : String)
    (nodes : List Node) (edges : List Edge) (online : Bool) (start : String) (s : σ) :
    let run : RunContext := ⟨executionId, Graph.build nodes edges, online⟩
    (∃ l : Loop σ, Loop.Steps answer run (.start {} start s) l ∧ l.stack = [] ∧
      (walkFrom run {} start).run answer s = ((l.failure, l.walk), l.world) ∧
      (walkFrom run {} start).trace answer s = l.trace) ∧
    ∀ l : Loop σ, Loop.Steps answer run (.start {} start s) l →
      l.walk.order = l.stops.map (·.node.id) ∧
      ∀ before stop after, l.stops = before ++ stop :: after → l.Outlook answer run before stop after := by
  intro run
  have hg : run.graph.Indexed := Graph.indexed_build nodes edges
  constructor
  · obtain ⟨l, steps, empty, result, trace⟩ := Loop.exists_steps_walkFrom answer run {} start s [] []
    exact ⟨l, steps, empty, result, by simpa using trace.symm⟩
  · intro l steps
    have accounts : l.Accounts run {} := steps.accounts hg
    have chronicle : l.Chronicle answer run := steps.chronicle hg
    exact ⟨by simpa using accounts.order, fun before stop after split => chronicle.outlook accounts split⟩

end
end Automation
