import Automation.Proofs.Loop

/-!
Several walks on one state. Whatever the starts, and whether or not a walk was cut short, no node is
carried out twice: the order has no id twice, a node makes at most one request over all the walks, and
an output that is kept stays as it is.
-/
namespace Automation

open Proc

/-- Walks from several starts, one after the other, on one state. A walk that is cut short does not
keep the next from being made. -/
def walkEach (run : RunContext) (w : Walk) : List String → Proc Walk
  | [] => .done w
  | start :: rest => (walkFrom run w start).bind fun (_, w) => walkEach run w rest

theorem get?_after {outputs : Outputs} {node : Node} {outcome : Option Outcome} {id : String}
    (h : id ≠ node.id) : Fields.get? (outputs.after node outcome) id = Fields.get? outputs id := by
  cases outcome with
  | none => rfl
  | some outcome =>
    cases outcome with
    | error text => rfl
    | output fields =>
      simp only [Outputs.after, keepOutput]
      rw [Fields.get?_insert, if_neg h]

theorem get?_after_self {outputs : Outputs} {node : Node} {outcome : Option Outcome} {id : String}
    {value : Value} (h : Fields.get? (outputs.after node outcome) id = some value) :
    id = node.id ∨ Fields.get? outputs id = some value := by
  by_cases hid : id = node.id
  · exact .inl hid
  · rw [get?_after hid] at h
    exact .inr h

/-- Of stops with different ids, at most one has a given id. -/
theorem filter_stops_length_le {stops : List Stop} (once : (stops.map (·.node.id)).Nodup)
    (id : String) : (stops.filter (·.node.id == id)).length ≤ 1 := by
  have h := List.nodup_iff_count.mp once id
  rw [List.count, List.countP_map, List.countP_eq_length_filter] at h
  exact h

namespace Loop

variable {σ : Type} {answer : Answerer σ} {run : RunContext} {l l' : Loop σ}

/-- A state on which no walk was made yet. -/
def fresh (s : σ) : Loop σ := ⟨{}, [], s, none, [], []⟩

/-- What happens next on a state: the walk under way has its turn, or, when it is over, a further
walk is begun. -/
inductive Move (answer : Answerer σ) (run : RunContext) : Loop σ → Loop σ → Prop
  | turn {l l' : Loop σ} (step : Step answer run l l') : Move answer run l l'
  | begun {l : Loop σ} (empty : l.stack = []) (start : String) :
      Move answer run l { l with stack := [start], failure := none }

/-- Any number of walks on a state, the last of them anywhere on its way. -/
abbrev Moves (answer : Answerer σ) (run : RunContext) : Loop σ → Loop σ → Prop :=
  Relation.ReflTransGen (Move answer run)

theorem Steps.moves (h : Steps answer run l l') : Moves answer run l l' :=
  Relation.ReflTransGen.mono (fun _ _ step => .turn step) l l' h

/-- Walks from several starts are moves, with the same exchanges. -/
theorem exists_moves (answer : Answerer σ) (run : RunContext) (l : Loop σ) (starts : List String)
    (empty : l.stack = []) :
    ∃ l', Moves answer run l l' ∧ l'.stack = [] ∧
      (walkEach run l.walk starts).run answer l.world = (l'.walk, l'.world) ∧
      l'.trace = l.trace ++ (walkEach run l.walk starts).trace answer l.world := by
  induction starts generalizing l with
  | nil => exact ⟨l, .refl, empty, rfl, (List.append_nil _).symm⟩
  | cons start rest ih =>
    obtain ⟨l₁, steps, empty₁, result₁, trace₁⟩ :=
      exists_steps_walkFrom answer run l.walk start l.world l.stops l.trace
    obtain ⟨l₂, moves, empty₂, result₂, trace₂⟩ := ih l₁ empty₁
    have first : Moves answer run l l₁ := .head (.begun empty start) steps.moves
    refine ⟨l₂, first.trans moves, empty₂, ?_, ?_⟩
    · simp only [walkEach, run_bind, result₁]
      exact result₂
    · simp only [walkEach, trace_bind, result₁]
      rw [trace₂, trace₁, List.append_assoc]

/-- The requests that nodes with an id made. -/
def requestsOf (l : Loop σ) (id : String) : List Http.Request :=
  (l.stops.filter (·.node.id == id)).flatMap fun stop => requests stop.trace

/-- What the requests and the outputs of walks on one state come from: the requests from stops, at
most one from each and only from http nodes; the outputs from visited ids. -/
structure Ledger (l : Loop σ) : Prop where
  requests : requests l.trace = l.stops.flatMap fun stop => Automation.requests stop.trace
  single : ∀ stop ∈ l.stops, (Automation.requests stop.trace).length ≤ 1
  http : ∀ stop ∈ l.stops, stop.node.kind? ≠ some .http → Automation.requests stop.trace = []
  outputs : ∀ id value, l.walk.outputs.get? id = some value → id ∈ l.walk.visited

theorem Ledger.fresh (s : σ) : Ledger (fresh s) where
  requests := rfl
  single := fun _ h => absurd h List.not_mem_nil
  http := fun _ h => absurd h List.not_mem_nil
  outputs := by
    intro id value h
    cases h

/-- A further stop is entered in the ledger with the exchanges of its visit. -/
theorem Ledger.enter (h : Ledger l) {node : Node} {outputs : Outputs}
    {result : Except Failure (Option Outcome)} {s : σ} {w : Walk} {stack : List String} {s' : σ}
    {failure : Option Failure}
    (kept : ∀ id value, w.outputs.get? id = some value → id ∈ w.visited) :
    Ledger ⟨w, stack, s', failure,
      l.stops ++ [⟨node, outputs, result, (visit run outputs node).trace answer s⟩],
      l.trace ++ (visit run outputs node).trace answer s⟩ := by
  constructor
  · rw [requests_append, h.requests, List.flatMap_append, List.flatMap_singleton]
  · intro stop hstop
    rcases List.mem_append.mp hstop with hstop | hstop
    · exact h.single stop hstop
    · rw [List.mem_singleton.mp hstop]
      exact requests_visit_le answer run outputs node s
  · intro stop hstop hkind
    rcases List.mem_append.mp hstop with hstop | hstop
    · exact h.http stop hstop hkind
    · rw [List.mem_singleton.mp hstop] at hkind ⊢
      exact requests_visit_eq_nil answer hkind s
  · exact kept

/-- What the journal is told is no request. -/
theorem requests_noteMissing (id : String) (s : σ) :
    Automation.requests ((noteMissing id).trace answer s) = [] := rfl

theorem Ledger.move (hg : run.graph.Indexed) (h : Ledger l) (move : Move answer run l l') :
    Ledger l' := by
  cases move with
  | begun empty start => exact ⟨h.requests, h.single, h.http, h.outputs⟩
  | turn step =>
    cases step with
    | again seen => exact ⟨h.requests, h.single, h.http, h.outputs⟩
    | missing new missing =>
      refine ⟨?_, h.single, h.http, ?_⟩
      · rw [requests_append, requests_noteMissing, List.append_nil]
        exact h.requests
      · intro id value hv
        exact List.mem_cons_of_mem _ (h.outputs id value hv)
    | node new found result =>
      apply h.enter
      intro id value hv
      rw [(visit_ok answer result).1] at hv
      rcases get?_after_self hv with rfl | hv
      · rw [hg.id_eq found]
        exact List.mem_cons_self
      · exact List.mem_cons_of_mem _ (h.outputs id value hv)
    | cut new found result =>
      apply h.enter
      intro id value hv
      exact List.mem_cons_of_mem _ (h.outputs id value hv)

theorem Ledger.moves (hg : run.graph.Indexed) (h : Ledger l) (moves : Moves answer run l l') :
    Ledger l' :=
  kept_of_steps (fun h move => h.move hg move) h moves

/-- An output that was kept is neither replaced nor removed: what has one was visited before. -/
theorem Ledger.outputs_move (hg : run.graph.Indexed) (h : Ledger l) (move : Move answer run l l')
    {id : String} {value : Value} (kept : l.walk.outputs.get? id = some value) :
    l'.walk.outputs.get? id = some value := by
  have visited : id ∈ l.walk.visited := h.outputs id value kept
  cases move with
  | begun empty start => exact kept
  | turn step =>
    cases step with
    | again seen => exact kept
    | missing new missing => exact kept
    | cut new found result => exact kept
    | node new found result =>
      rw [(visit_ok answer result).1]
      refine (get?_after ?_).trans kept
      rw [hg.id_eq found]
      rintro rfl
      exact new visited

theorem Ledger.outputs_moves (hg : run.graph.Indexed) (h : Ledger l) (moves : Moves answer run l l')
    {id : String} {value : Value} (kept : l.walk.outputs.get? id = some value) :
    l'.walk.outputs.get? id = some value := by
  induction moves with
  | refl => exact kept
  | tail moves move ih => exact (h.moves hg moves).outputs_move hg move ih

theorem Accounts.move (hg : run.graph.Indexed) {w₀ : Walk} (h : Accounts run w₀ l)
    (move : Move answer run l l') : Accounts run w₀ l' := by
  cases move with
  | turn step => exact h.step hg step
  | begun empty start => exact ⟨h.order, h.once, h.stopped_iff, h.kept⟩

theorem Accounts.moves (hg : run.graph.Indexed) {w₀ : Walk} (h : Accounts run w₀ l)
    (moves : Moves answer run l l') : Accounts run w₀ l' :=
  kept_of_steps (fun h move => h.move hg move) h moves

theorem Accounts.fresh (run : RunContext) (s : σ) : Accounts run {} (fresh s) where
  order := rfl
  once := List.nodup_nil
  stopped_iff := by
    intro id
    constructor
    · intro h
      cases h
    · rintro ⟨visited, -⟩
      cases visited
  kept := fun _ h => h

/-- No id makes a second request. -/
theorem requestsOf_length_le {w₀ : Walk} (hl : Accounts run w₀ l) (h : Ledger l) (id : String) :
    (l.requestsOf id).length ≤ 1 := by
  have few := filter_stops_length_le hl.once id
  unfold requestsOf
  cases hs : l.stops.filter (·.node.id == id) with
  | nil => exact Nat.zero_le 1
  | cons stop rest =>
    rw [hs, List.length_cons] at few
    have hrest : rest = [] := List.length_eq_zero_iff.mp (by omega)
    have hstop : stop ∈ l.stops.filter (·.node.id == id) := by
      rw [hs]
      exact List.mem_cons_self
    rw [hrest, List.flatMap_singleton]
    exact h.single stop (List.mem_filter.mp hstop).1

end Loop

/-- However many walks are made on a state that began empty, at the head of every iteration no id is
twice in the order, which lists the visited ids that are nodes; all requests were made by nodes that
were carried out, only by http nodes, and by none of them twice; and the outputs kept by then are there
unchanged from then on. -/
theorem walks_carry_out_once {σ : Type} (answer : Answerer σ) (executionId : String)
    (nodes : List Node) (edges : List Edge) (online : Bool) (s : σ) :
    let run : RunContext := ⟨executionId, Graph.build nodes edges, online⟩
    (∀ starts, ∃ l, Loop.Moves answer run (.fresh s) l ∧ l.stack = [] ∧
      (walkEach run {} starts).run answer s = (l.walk, l.world) ∧
      (walkEach run {} starts).trace answer s = l.trace) ∧
    ∀ l, Loop.Moves answer run (.fresh s) l →
      l.walk.order.Nodup ∧
      (∀ id, id ∈ l.walk.order ↔ id ∈ l.walk.visited ∧ ∃ n ∈ nodes, n.id = id) ∧
      requests l.trace = l.stops.flatMap (fun stop => requests stop.trace) ∧
      (∀ stop ∈ l.stops, stop.node.kind? ≠ some .http → requests stop.trace = []) ∧
      (∀ id, (l.requestsOf id).length ≤ 1) ∧
      ∀ l', Loop.Moves answer run l l' → ∀ id value, l.walk.outputs.get? id = some value →
        l'.walk.outputs.get? id = some value := by
  intro run
  have hg : run.graph.Indexed := Graph.indexed_build nodes edges
  constructor
  · intro starts
    obtain ⟨l, moves, empty, result, trace⟩ :=
      Loop.exists_moves answer run (.fresh s) starts rfl
    exact ⟨l, moves, empty, result, by simpa [Loop.fresh] using trace.symm⟩
  · intro l moves
    have accounts : l.Accounts run {} := (Loop.Accounts.fresh run s).moves hg moves
    have ledger : l.Ledger := (Loop.Ledger.fresh s).moves hg moves
    have order : l.walk.order = l.stops.map (·.node.id) := accounts.order
    refine ⟨?_, ?_, ledger.requests, ledger.http, Loop.requestsOf_length_le accounts ledger, ?_⟩
    · rw [order]
      exact accounts.once
    · intro id
      rw [order, accounts.stopped_iff id]
      constructor
      · rintro ⟨visited, -, node⟩
        exact ⟨visited, node⟩
      · rintro ⟨visited, node⟩
        exact ⟨visited, List.not_mem_nil, node⟩
    · intro l' moves' id value kept
      exact ledger.outputs_moves hg moves' kept

end Automation
