import Automation.Proofs.Provenance
import Automation.Proofs.Reach
import Automation.Run.Rehearsal

/-!
What steers a walk: its graph and the results of its conditions, and nothing else. Two walks through
graphs of one shape, whatever the settings of their nodes and whoever answers their calls, go the same
way as long as the conditions that both carry out end alike. Only a walk that is cut short stops earlier.
-/
namespace Automation

/-- What a walk goes by in a node: its id and its kind. -/
def Node.shape (n : Node) : String × String := (n.id, n.type)

/-- How a condition decided: with a truth value, or not at all. -/
def verdict? : Option Outcome → Option Bool
  | some (.output output) => some (holds output)
  | _ => none

theorem branch?_eq (outcome : Option Outcome) (outgoing : List Edge) :
    branch? outcome outgoing = (verdict? outcome).bind fun b =>
      (outgoing.find? fun e => e.label.getD "" == branchLabel b).map (·.target) := by
  cases outcome with
  | none => rfl
  | some outcome => cases outcome <;> rfl

/-- Where a node leads depends on its kind and, for a condition, on how it decided. -/
theorem successors_congr {node node' : Node} {outcome outcome' : Option Outcome} (outgoing : List Edge)
    (kind : node.type = node'.type)
    (alike : node.type = "condition" → verdict? outcome = verdict? outcome') :
    successors node outcome outgoing = successors node' outcome' outgoing := by
  have same : node.isCondition = node'.isCondition := by simp only [Node.isCondition, kind]
  rw [successors, successors, ← same]
  by_cases condition : node.isCondition = true
  · have type : node.type = "condition" := by simpa [Node.isCondition, NodeKind.text] using condition
    rw [if_pos condition, if_pos condition, branch?_eq, branch?_eq, alike type]
  · rw [if_neg condition, if_neg condition]

namespace Graph

/-- Graphs of one shape: the same edges, and nodes of the same ids and kinds in the same order. -/
structure Similar (g g' : Graph) : Prop where
  nodes : g.nodes.map Node.shape = g'.nodes.map Node.shape
  edges : g.edges = g'.edges

/-- In graphs of one shape an id refers to nodes of one shape. -/
theorem Similar.node? {g g' : Graph} (similar : g.Similar g') (hg : g.Indexed) (hg' : g'.Indexed)
    (id : String) : (g.node? id).map Node.shape = (g'.node? id).map Node.shape := by
  have byShape : ∀ nodes : List Node, (nodes.reverse.find? (·.id == id)).map Node.shape =
      (nodes.map Node.shape).reverse.find? (·.1 == id) := by
    intro nodes
    rw [← List.map_reverse, List.find?_map]
    rfl
  rw [hg.node?, hg'.node?, byShape, byShape, similar.nodes]

theorem Similar.missing {g g' : Graph} (similar : g.Similar g') (hg : g.Indexed) (hg' : g'.Indexed)
    {id : String} (missing : g.node? id = none) : g'.node? id = none := by
  have same := similar.node? hg hg' id
  rw [missing] at same
  exact Option.map_eq_none_iff.mp same.symm

theorem Similar.found {g g' : Graph} (similar : g.Similar g') (hg : g.Indexed) (hg' : g'.Indexed)
    {id : String} {n : Node} (found : g.node? id = some n) :
    ∃ n', g'.node? id = some n' ∧ n.id = n'.id ∧ n.type = n'.type := by
  have same := similar.node? hg hg' id
  rw [found] at same
  obtain ⟨n', found', shape⟩ := Option.map_eq_some_iff.mp same.symm
  exact ⟨n', found', (congrArg Prod.fst shape).symm, (congrArg Prod.snd shape).symm⟩

theorem Similar.outgoingEdges {g g' : Graph} (similar : g.Similar g') (hg : g.Indexed)
    (hg' : g'.Indexed) (id : String) : g.outgoingEdges id = g'.outgoingEdges id := by
  rw [hg.outgoingEdges, hg'.outgoingEdges, similar.edges]

/-- Runs through graphs of one shape start at the same id. -/
theorem Similar.trigger? {g g' : Graph} (similar : g.Similar g') :
    g.trigger?.map (·.id) = g'.trigger?.map (·.id) := by
  have byShape : ∀ nodes : List Node, (nodes.find? (·.isTrigger)).map (·.id) =
      ((nodes.map Node.shape).find? (·.2 == NodeKind.trigger.text)).map Prod.fst := by
    intro nodes
    rw [List.find?_map, Option.map_map]
    rfl
  rw [Graph.trigger?, Graph.trigger?, byShape, byShape, similar.nodes]

/-- An edge that leaves a node. -/
def Leads (g : Graph) (a b : String) : Prop :=
  (∃ n ∈ g.nodes, n.id = a) ∧ ∃ e ∈ g.edges, e.source = a ∧ e.target = b

end Graph

/-- What a walk follows is an edge that leaves a node. -/
theorem Follows.leads {g : Graph} {stops : List Stop} (found : ∀ stop ∈ stops, stop.node ∈ g.nodes)
    {a b : String} (follows : Follows g stops a b) : g.Leads a b := by
  cases follows with
  | @fanOut node e there plain edge source =>
    have inside : node ∈ g.nodes := List.mem_reverse.mp (List.mem_of_find?_eq_some there)
    exact ⟨⟨node, inside, by simpa using List.find?_some there⟩, e, edge, source, rfl⟩
  | @branch stop b e stopped at_ condition result first =>
    obtain ⟨edge, source⟩ := List.mem_filter.mp (List.mem_of_find?_eq_some first)
    exact ⟨⟨stop.node, found stop stopped, at_⟩, e, edge, by simpa using source, rfl⟩

theorem Reaches.path {g : Graph} {stops : List Stop} (found : ∀ stop ∈ stops, stop.node ∈ g.nodes)
    {visited : List String} {start id : String} (reaches : Reaches g stops visited start id) :
    Relation.ReflTransGen g.Leads start id := by
  induction reaches with
  | start => exact .refl
  | follow _ edge _ ih => exact ih.tail (edge.leads found)

namespace Loop

variable {σ τ : Type} {answer : Answerer σ} {answer' : Answerer τ} {run run' : RunContext}
  {l l₁ : Loop σ} {m m₁ : Loop τ}

/-- The conditions that two walks both carried out decided alike. -/
def Concur (l : Loop σ) (m : Loop τ) : Prop :=
  ∀ stop ∈ l.stops, ∀ stop' ∈ m.stops, stop.node.id = stop'.node.id → stop.node.type = "condition" →
    ∀ outcome outcome', stop.result = .ok outcome → stop'.result = .ok outcome' →
      verdict? outcome = verdict? outcome'

/-- Two walks went the same way: they have the same order, or one was cut short and the order of the other
begins with its own. -/
def Abreast (l : Loop σ) (m : Loop τ) : Prop :=
  l.walk.order = m.walk.order ∨ l.failure ≠ none ∧ l.walk.order <+: m.walk.order ∨
    m.failure ≠ none ∧ m.walk.order <+: l.walk.order

/-- Two walks under way at the same place. -/
structure Level (l : Loop σ) (m : Loop τ) : Prop where
  visited : l.walk.visited = m.walk.visited
  order : l.walk.order = m.walk.order
  stack : l.stack = m.stack

/-- A turn takes nothing back of what was visited and carried out. -/
theorem Step.extends (step : Step answer run l l₁) :
    l.walk.order <+: l₁.walk.order ∧ l.stops <+: l₁.stops := by
  cases step with
  | again | missing => exact ⟨List.prefix_rfl, List.prefix_rfl⟩
  | node | cut => exact ⟨List.prefix_append _ _, List.prefix_append _ _⟩

theorem Steps.extends (steps : Steps answer run l l₁) :
    l.walk.order <+: l₁.walk.order ∧ l.stops <+: l₁.stops := by
  induction steps with
  | refl => exact ⟨List.prefix_rfl, List.prefix_rfl⟩
  | tail _ step ih => exact ⟨ih.1.trans step.extends.1, ih.2.trans step.extends.2⟩

theorem Concur.of_steps {l₁ : Loop σ} {m₁ : Loop τ} (concur : Concur l₁ m₁) (steps : Steps answer run l l₁)
    (steps' : Steps answer' run' m m₁) : Concur l m := fun stop there stop' there' =>
  concur stop (steps.extends.2.subset there) stop' (steps'.extends.2.subset there')

theorem not_step_of_empty (empty : l.stack = []) : ¬Step answer run l l₁ := by
  intro step
  cases step <;> cases empty

/-- A walk with an empty stack is over. -/
theorem Steps.eq_of_empty (empty : l.stack = []) (steps : Steps answer run l l₁) : l = l₁ := by
  rcases steps.cases_head with same | ⟨next, step, -⟩
  · exact same
  · exact absurd step (not_step_of_empty empty)

/-- What a turn makes of the id that it takes off the stack, by what the id is: one that was visited before,
one that is no node's, or that of a node, which is carried out or cuts the walk short. -/
structure Takes (run : RunContext) (l l₁ : Loop σ) (id : String) (rest : List String) : Prop where
  stack : l.stack = id :: rest
  again : id ∈ l.walk.visited → l₁.walk = l.walk ∧ l₁.stack = rest
  missing : id ∉ l.walk.visited → run.graph.node? id = none →
    l₁.walk = { l.walk with visited := id :: l.walk.visited } ∧ l₁.stack = rest
  node : ∀ n, id ∉ l.walk.visited → run.graph.node? id = some n →
    l₁.walk.visited = id :: l.walk.visited ∧ l₁.walk.order = l.walk.order ++ [id] ∧
      ((∃ stop ∈ l₁.stops, stop.node = n ∧ ∃ outcome, stop.result = .ok outcome ∧
        l₁.stack = successors n outcome (run.graph.outgoingEdges id) ++ rest) ∨
      l₁.failure ≠ none ∧ l₁.stack = [])

theorem Step.takes (step : Step answer run l l₁) : ∃ id rest, Takes run l l₁ id rest := by
  cases step with
  | again seen =>
    exact ⟨_, _, rfl, fun _ => ⟨rfl, rfl⟩, fun new => absurd seen new, fun _ new => absurd seen new⟩
  | missing new missing =>
    refine ⟨_, _, rfl, fun seen => absurd seen new, fun _ _ => ⟨rfl, rfl⟩, ?_⟩
    intro n _ found
    rw [missing] at found
    cases found
  | node new found result =>
    refine ⟨_, _, rfl, fun seen => absurd seen new, ?_, ?_⟩
    · intro _ missing
      rw [found] at missing
      cases missing
    · intro n _ found'
      obtain rfl : _ = n := Option.some.inj (found.symm.trans found')
      exact ⟨rfl, rfl, .inl ⟨_, List.mem_append_right _ (List.mem_singleton_self _), rfl, _, rfl, rfl⟩⟩
  | cut new found result =>
    refine ⟨_, _, rfl, fun seen => absurd seen new, ?_, ?_⟩
    · intro _ missing
      rw [found] at missing
      cases missing
    · exact fun _ _ _ => ⟨rfl, rfl, .inr ⟨Option.some_ne_none _, rfl⟩⟩

/-- After one turn each, walks that were level have the same order, and they are level again unless one
was cut short. -/
theorem Level.step (similar : run.graph.Similar run'.graph) (hg : run.graph.Indexed)
    (hg' : run'.graph.Indexed) (level : Level l m) (step : Step answer run l l₁)
    (step' : Step answer' run' m m₁) (concur : Concur l₁ m₁) :
    l₁.walk.order = m₁.walk.order ∧
      (Level l₁ m₁ ∨ l₁.failure ≠ none ∧ l₁.stack = [] ∨ m₁.failure ≠ none ∧ m₁.stack = []) := by
  obtain ⟨id, rest, taken⟩ := step.takes
  obtain ⟨id', rest', taken'⟩ := step'.takes
  obtain ⟨visited, order, stack⟩ := level
  -- level walks see the same id next, and it is the same to both
  obtain ⟨rfl, rfl⟩ : id = id' ∧ rest = rest' :=
    List.cons.inj (taken.stack.symm.trans (stack.trans taken'.stack))
  by_cases seen : id ∈ l.walk.visited
  · obtain ⟨walk₁, stack₁⟩ := taken.again seen
    obtain ⟨walk₁', stack₁'⟩ := taken'.again (visited ▸ seen)
    exact ⟨by rw [walk₁, walk₁', order],
      .inl ⟨by rw [walk₁, walk₁', visited], by rw [walk₁, walk₁', order], stack₁.trans stack₁'.symm⟩⟩
  have seen' : id ∉ m.walk.visited := visited ▸ seen
  cases found : run.graph.node? id with
  | none =>
    obtain ⟨walk₁, stack₁⟩ := taken.missing seen found
    obtain ⟨walk₁', stack₁'⟩ := taken'.missing seen' (similar.missing hg hg' found)
    exact ⟨by rw [walk₁, walk₁', order],
      .inl ⟨by rw [walk₁, walk₁', visited], by rw [walk₁, walk₁', order], stack₁.trans stack₁'.symm⟩⟩
  | some n =>
    obtain ⟨n', found', ids, types⟩ := similar.found hg hg' found
    obtain ⟨visited₁, order₁, next⟩ := taken.node n seen found
    obtain ⟨visited₁', order₁', next'⟩ := taken'.node n' seen' found'
    have same : l₁.walk.order = m₁.walk.order := by rw [order₁, order₁', order]
    refine ⟨same, ?_⟩
    rcases next with ⟨stop, there, rfl, outcome, ended, stack₁⟩ | cut
    · rcases next' with ⟨stop', there', rfl, outcome', ended', stack₁'⟩ | cut
      · have alike : stop.node.type = "condition" → verdict? outcome = verdict? outcome' :=
          fun condition => concur stop there stop' there' ids condition outcome outcome' ended ended'
        refine .inl ⟨by rw [visited₁, visited₁', visited], same, ?_⟩
        rw [stack₁, stack₁', similar.outgoingEdges hg hg', successors_congr _ types alike]
      · exact .inr (.inr cut)
    · exact .inr (.inl cut)

/-- Walks that were level end abreast. -/
theorem Level.abreast (similar : run.graph.Similar run'.graph) (hg : run.graph.Indexed)
    (hg' : run'.graph.Indexed) {l' : Loop σ} {m' : Loop τ} (level : Level l m)
    (steps : Steps answer run l l') (empty : l'.stack = []) (steps' : Steps answer' run' m m')
    (empty' : m'.stack = []) (concur : Concur l' m') : Abreast l' m' := by
  -- from the front, for it is at their beginning that the walks are known to be level
  induction steps using Relation.ReflTransGen.head_induction_on generalizing m with
  | refl =>
    obtain rfl : m = m' := steps'.eq_of_empty (level.stack ▸ empty)
    exact .inl level.order
  | @head l l₁ step rest ih =>
    rcases steps'.cases_head with rfl | ⟨m₁, step', rest'⟩
    · exact absurd step (not_step_of_empty (level.stack.trans empty'))
    · obtain ⟨same, level | ⟨cut, empty⟩ | ⟨cut, empty⟩⟩ :=
        level.step similar hg hg' step step' (concur.of_steps rest rest')
      · exact ih level rest'
      · obtain rfl := Steps.eq_of_empty empty rest
        exact .inr (.inl ⟨cut, same ▸ (Steps.extends rest').1⟩)
      · obtain rfl := Steps.eq_of_empty empty rest'
        exact .inr (.inr ⟨cut, same ▸ (Steps.extends rest).1⟩)

/-- A walk carries out only nodes to which a path of edges leads from its start. -/
theorem Steps.path (hg : run.graph.Indexed) {start : String} {s : σ}
    (steps : Steps answer run (.start {} start s) l) {stop : Stop} (there : stop ∈ l.stops) :
    stop.node ∈ run.graph.nodes ∧ Relation.ReflTransGen run.graph.Leads start stop.node.id := by
  have accounts : l.Accounts run {} := steps.accounts hg
  have chronicle : l.Chronicle answer run := steps.chronicle hg
  have found : ∀ stop ∈ l.stops, stop.node ∈ run.graph.nodes :=
    fun stop there => hg.mem (chronicle.found stop there)
  have frontier : l.Frontier run {} start :=
    (Frontier.start run {} start s).steps hg (Accounts.start run {} start s) steps
  have visited := ((accounts.stopped_iff _).mp (List.mem_map_of_mem there)).1
  rcases frontier.reached _ visited with before | reaches
  · cases before
  · exact ⟨found stop there, reaches.path found⟩

end Loop

/-- The way that a walk from an empty state goes is given by its graph and the results of its conditions.
Two walks begin at the same trigger and visit the same nodes in the same order, if their graphs differ at
most in the settings of the nodes and the conditions that both carry out decide alike; the executions, the
network and the log may be different ones. Where no path of edges leads to a condition, the graph alone
gives the way. A walk that is cut short has gone the same way up to there, and none is as long as the
network answers with data that can be written. -/
theorem order_follows_conditions {σ τ : Type} (answer : Answerer σ) (answer' : Answerer τ)
    (executionId executionId' : String) {nodes nodes' : List Node} (edges : List Edge)
    (same : nodes.map Node.shape = nodes'.map Node.shape) (online online' : Bool) (start : String)
    (s : σ) (s' : τ) :
    let run : RunContext := ⟨executionId, Graph.build nodes edges, online⟩
    let run' : RunContext := ⟨executionId', Graph.build nodes' edges, online'⟩
    run.graph.trigger?.map (·.id) = run'.graph.trigger?.map (·.id) ∧
    ∃ (l : Loop σ) (m : Loop τ),
      (Loop.Steps answer run (.start {} start s) l ∧ l.stack = [] ∧
        (walkFrom run {} start).run answer s = ((l.failure, l.walk), l.world)) ∧
      (Loop.Steps answer' run' (.start {} start s') m ∧ m.stack = [] ∧
        (walkFrom run' {} start).run answer' s' = ((m.failure, m.walk), m.world)) ∧
      (l.Concur m → l.Abreast m) ∧
      ((∀ n ∈ nodes, Relation.ReflTransGen run.graph.Leads start n.id → n.type ≠ "condition") →
        l.Abreast m) ∧
      (NetworkWritable answer → l.failure = none) ∧ (NetworkWritable answer' → m.failure = none) := by
  intro run run'
  have hg : run.graph.Indexed := Graph.indexed_build nodes edges
  have hg' : run'.graph.Indexed := Graph.indexed_build nodes' edges
  have similar : run.graph.Similar run'.graph := ⟨same, rfl⟩
  obtain ⟨l, steps, empty, result, -⟩ := Loop.exists_steps_walkFrom answer run {} start s [] []
  obtain ⟨m, steps', empty', result', -⟩ := Loop.exists_steps_walkFrom answer' run' {} start s' [] []
  have level : (Loop.start {} start s).Level (Loop.start {} start s') := ⟨rfl, rfl, rfl⟩
  have abreast : l.Concur m → l.Abreast m := level.abreast similar hg hg' steps empty steps' empty'
  refine ⟨similar.trigger?, l, m, ⟨steps, empty, result⟩, ⟨steps', empty', result'⟩, abreast, ?_,
    fun network => (steps.sound network Outputs.canBeWritten_nil).uncut,
    fun network => (steps'.sound network Outputs.canBeWritten_nil).uncut⟩
  intro unreached
  apply abreast
  intro stop there stop' there' alike condition
  obtain ⟨inside, path⟩ := steps.path hg there
  exact absurd condition (unreached stop.node inside path)

/-- A condition whose settings hold no placeholder decides by these settings, whoever answers the calls
of the walk. -/
theorem Loop.Steps.verdict {σ : Type} {answer : Answerer σ} {run : RunContext} {start : String} {s : σ}
    {l : Loop σ} (hg : run.graph.Indexed) (steps : Loop.Steps answer run (.start {} start s) l)
    {stop : Stop} (there : stop ∈ l.stops) (condition : stop.node.kind? = some .condition)
    (literal : stop.outputs.resolveFields Stack.setting stop.node.settings = .ok stop.node.settings)
    {outcome : Option Outcome} (ended : stop.result = .ok outcome) :
    verdict? outcome = verdict? (some (Handled.ofResult
      (handleCondition ⟨stop.node, stop.node.settings, stop.outputs, run.online⟩)).outcome) := by
  obtain ⟨s', visited⟩ := (steps.chronicle hg).visited stop there
  rw [visited.result, run_visit_of_ok answer literal, run_carryOut condition] at ended
  exact congrArg verdict? (Except.ok.inj ended).symm

/-- Two walks that take the same branch of a condition, with other operands, a network that is down and a
log that refuses every entry. -/
theorem order_follows_conditions_branch :
    let edges : List Edge :=
      [⟨"t", "h", none⟩, ⟨"h", "c", none⟩, ⟨"c", "n", some "FALSE"⟩, ⟨"c", "y", some "TRUE"⟩]
    let c : Node := { id := "c", type := "condition" }
    let c' : Node := { c with settings := [("leftSide", .int 2), ("rightSide", .int 2)] }
    let around (c : Node) : List Node :=
      [{ id := "t", type := "trigger" }, { id := "h", type := "http" }, c, { id := "y", type := "email" },
        { id := "n", type := "delay" }]
    let run : RunContext := ⟨"e", Graph.build (around c) edges, true⟩
    let run' : RunContext := ⟨"e'", Graph.build (around c') edges, true⟩
    let s := Rehearsal.start {} [] [] default
    let down : Script :=
      { replies := [.error (.reported "ConnectionError" "unreachable")], appendFails := fun _ => true }
    let s' := Rehearsal.start down [] [] default
    (around c).map Node.shape = (around c').map Node.shape ∧
      ((walkFrom run {} "t").run Rehearsal.answer s).1.2.order =
        ((walkFrom run' {} "t").run Rehearsal.answer s').1.2.order := by
  intro edges c c' around run run' s down s'
  have same : (around c).map Node.shape = (around c').map Node.shape := rfl
  obtain ⟨-, l, m, ⟨steps, -, result⟩, ⟨steps', -, result'⟩, abreast, -⟩ :=
    order_follows_conditions Rehearsal.answer Rehearsal.answer "e" "e'" edges same true true "t" s s'
  have uncut : l.failure.isNone = true := by
    have failure : ((walkFrom run {} "t").run Rehearsal.answer s).1.1 = l.failure := congrArg (·.1.1) result
    rw [← failure]
    decide +kernel
  have uncut' : m.failure.isNone = true := by
    have failure : ((walkFrom run' {} "t").run Rehearsal.answer s').1.1 = m.failure :=
      congrArg (·.1.1) result'
    rw [← failure]
    decide +kernel
  -- the condition is the only node of its type, and the only one of its id
  have only : ∀ k n : Node, n ∈ around k → n.type = "condition" ∨ n.id = "c" → n = k := by
    intro k n there named
    simp only [around, List.mem_cons, List.not_mem_nil, or_false] at there
    rcases there with rfl | rfl | rfl | rfl | rfl <;> first | rfl | exact absurd named (by decide)
  have concur : l.Concur m := by
    intro stop there stop' there' alike condition outcome outcome' ended ended'
    have inside := (Loop.Steps.path (Graph.indexed_build _ _) steps there).1
    have inside' := (Loop.Steps.path (Graph.indexed_build _ _) steps' there').1
    have node : stop.node = c := only c _ inside (.inl condition)
    have node' : stop'.node = c' := only c' _ inside' (.inr (alike ▸ node ▸ rfl))
    have verdict := Loop.Steps.verdict (Graph.indexed_build _ _) steps there (by rw [node]; decide)
      (by rw [node]; rfl) ended
    have verdict' := Loop.Steps.verdict (Graph.indexed_build _ _) steps' there' (by rw [node']; decide)
      (by rw [node']; rfl) ended'
    rw [verdict, verdict', node, node']
    rfl
  rcases abreast concur with level | ⟨cut, -⟩ | ⟨cut, -⟩
  · exact ⟨same, by rw [result, result', level]⟩
  · exact absurd (Option.isNone_iff_eq_none.mp uncut) cut
  · exact absurd (Option.isNone_iff_eq_none.mp uncut') cut

/-- Two walks without conditions that differ in what the network answers. In the second, settings ask for a
reply that was read and is nested too deep to be written, and the node after them is never visited. -/
theorem walk_ends_early :
    let run : RunContext := ⟨"e", Graph.build
      [{ id := "t", type := "trigger" }, { id := "h", type := "http" },
        { id := "m", type := "email"
          settings := [("recipient", .str "\x7b\x7bcontext.outputs.h.response\x7d\x7d")] },
        { id := "d", type := "delay" }]
      [⟨"t", "h", none⟩, ⟨"h", "m", none⟩, ⟨"m", "d", none⟩], true⟩
    let world (reply : Reply) := Rehearsal.start { replies := [reply] } [] [] default
    let order (reply : Reply) := ((walkFrom run {} "t").run Rehearsal.answer (world reply)).1.2.order
    (∀ n ∈ run.graph.nodes, n.type ≠ "condition") ∧
      order (.ok ⟨200, .int 7, []⟩) = ["t", "h", "m", "d"] ∧
      order (Http.decodeResponse Http.deepReply) = ["t", "h", "m"] := by
  rw [Http.decodeResponse_deepReply]
  decide +kernel

end Automation
