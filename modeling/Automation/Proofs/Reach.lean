import Automation.Proofs.Branching
import Automation.Proofs.Loop

/-!
What a walk visits. An edge is followed if it leaves a node that is no condition, or if it is the one
labelled with the result of a condition that the walk carried out. A walk that is not cut short visits
the ids that it had visited before and those it can reach by followed edges around them, and no others;
a walk that is cut short, because the settings of a node cannot be substituted, visits no others either.
-/
namespace Automation

/-- The edges that a walk follows, by what its nodes ended with. -/
inductive Follows (g : Graph) (stops : List Stop) : String → String → Prop
  | fanOut {a node e} (found : g.nodes.reverse.find? (·.id == a) = some node)
      (plain : node.type ≠ "condition") (edge : e ∈ g.edges) (source : e.source = a) :
      Follows g stops a e.target
  | branch {a stop b e} (stopped : stop ∈ stops) (at_ : stop.node.id = a)
      (condition : stop.node.type = "condition")
      (result : stop.result = .ok (some (.output [("result", .bool b)])))
      (first : g.labelled? a b = some e) :
      Follows g stops a e.target

/-- The ids on paths of followed edges from a start, none of whose ids was visited before. -/
inductive Reaches (g : Graph) (stops : List Stop) (visited : List String) (start : String) :
    String → Prop
  | start (new : start ∉ visited) : Reaches g stops visited start start
  | follow {a b} (path : Reaches g stops visited start a) (edge : Follows g stops a b)
      (new : b ∉ visited) : Reaches g stops visited start b

variable {g : Graph} {stops : List Stop} {stop : Stop} {visited : List String}
  {origin a b : String}

/-- Further stops leave followed edges followed. -/
theorem Follows.snoc (h : Follows g stops a b) : Follows g (stops ++ [stop]) a b := by
  cases h with
  | fanOut found plain edge source => exact .fanOut found plain edge source
  | branch stopped at_ condition result first =>
    exact .branch (List.mem_append_left _ stopped) at_ condition result first

/-- A stop has no say in the edges that leave other ids. -/
theorem Follows.of_snoc (h : Follows g (stops ++ [stop]) a b) (ha : stop.node.id ≠ a) :
    Follows g stops a b := by
  cases h with
  | fanOut found plain edge source => exact .fanOut found plain edge source
  | branch stopped at_ condition result first =>
    rcases List.mem_append.mp stopped with hs | hs
    · exact .branch hs at_ condition result first
    · rw [List.mem_singleton.mp hs] at at_
      exact absurd at_ ha

theorem Reaches.snoc (h : Reaches g stops visited origin a) :
    Reaches g (stops ++ [stop]) visited origin a := by
  induction h with
  | start new => exact .start new
  | follow _ edge new ih => exact .follow ih edge.snoc new

/-- A node leads to the ids to which the edges go that are followed from it. -/
theorem LeadsTo.mem_iff_follows {node : Node} {outcome : Option Outcome} {ids : List String}
    (h : LeadsTo g node outcome ids) (found : g.nodes.reverse.find? (·.id == a) = some node)
    (hnode : stop.node = node) (hresult : stop.result = .ok outcome)
    (fresh : ∀ stop ∈ stops, stop.node.id ≠ a) :
    b ∈ ids ↔ Follows g (stops ++ [stop]) a b := by
  have hid : node.id = a := by simpa using List.find?_some found
  have last : ∀ {stop'}, stop' ∈ stops ++ [stop] → stop'.node.id = a → stop' = stop := by
    intro stop' hs he
    rcases List.mem_append.mp hs with hs | hs
    · exact absurd he (fresh stop' hs)
    · exact List.mem_singleton.mp hs
  have self : stop ∈ stops ++ [stop] := List.mem_append_right _ (List.mem_singleton_self stop)
  constructor
  · intro hb
    cases h with
    | everywhere plain =>
      obtain ⟨e, he, rfl⟩ := List.mem_map.mp hb
      obtain ⟨edge, source⟩ := List.mem_filter.mp he
      rw [hid] at source
      exact .fanOut found plain edge (by simpa using source)
    | along condition first =>
      rw [List.mem_singleton.mp hb]
      rw [hid] at first
      exact .branch self (by rw [hnode, hid]) (by rw [hnode, condition]) hresult first
    | nowhere | failed => cases hb
  · intro hf
    cases hf with
    | fanOut found' plain edge source =>
      rw [found] at found'
      cases found'
      cases h with
      | everywhere =>
        exact List.mem_map.mpr ⟨_, List.mem_filter.mpr ⟨edge, by simpa [hid] using source⟩, rfl⟩
      | along condition | nowhere condition | failed condition => exact absurd condition plain
    | branch stopped at_ condition result first =>
      rw [last stopped at_] at condition result
      rw [hnode] at condition
      rw [hresult] at result
      cases result
      cases h with
      | everywhere plain => exact absurd condition plain
      | along _ first' =>
        rw [hid, first] at first'
        cases first'
        exact List.mem_singleton_self _
      | nowhere _ unlabelled =>
        rw [hid, first] at unlabelled
        cases unlabelled

namespace Loop

variable {σ : Type} {answer : Answerer σ} {run : RunContext} {l l' : Loop σ} {w₀ : Walk}

/-- The ids that a walk has still to visit lie at the end of followed edges. What it visited can be
reached, and the edges followed from there lead to what it visited or has still to visit. -/
structure Frontier (run : RunContext) (w₀ : Walk) (origin : String) (l : Loop σ) : Prop where
  pending : ∀ id ∈ l.stack, id ∉ w₀.visited → Reaches run.graph l.stops w₀.visited origin id
  reached : ∀ id ∈ l.walk.visited, id ∈ w₀.visited ∨ Reaches run.graph l.stops w₀.visited origin id
  started : l.failure = none → origin ∈ l.walk.visited ∨ origin ∈ l.stack
  followed : l.failure = none → ∀ a ∈ l.walk.visited, a ∉ w₀.visited →
    ∀ b, Follows run.graph l.stops a b → b ∈ l.walk.visited ∨ b ∈ l.stack

theorem Frontier.start (run : RunContext) (w : Walk) (start : String) (s : σ) :
    Frontier run w start (.start w start s) where
  pending := by
    intro id hid new
    rw [List.mem_singleton.mp hid] at new ⊢
    exact .start new
  reached := fun _ h => .inl h
  started := fun _ => .inr (List.mem_singleton_self start)
  followed := fun _ _ ha new => absurd ha new

/-- What is visited next was pending. -/
theorem Frontier.reached_head (h : Frontier run w₀ origin l) {id : String} {rest : List String}
    (stack : l.stack = id :: rest) :
    id ∈ w₀.visited ∨ Reaches run.graph l.stops w₀.visited origin id := by
  by_cases hid : id ∈ w₀.visited
  · exact .inl hid
  · exact .inr (h.pending id (by rw [stack]; exact List.mem_cons_self) hid)

/-- An id that is taken off the stack is visited from then on. -/
theorem mem_or_mem_of_taken {seen seen' rest rest' : List String} {id b : String} (taken : id ∈ seen')
    (hseen : ∀ a ∈ seen, a ∈ seen') (hrest : ∀ a ∈ rest, a ∈ rest')
    (hb : b ∈ seen ∨ b ∈ id :: rest) : b ∈ seen' ∨ b ∈ rest' := by
  rcases hb with hb | hb
  · exact .inl (hseen b hb)
  · rcases List.mem_cons.mp hb with rfl | hb
    · exact .inl taken
    · exact .inr (hrest b hb)

/-- A node that was carried out leads along the edges that are followed from it from then on. -/
theorem Accounts.mem_successors_iff (hg : run.graph.Indexed) (hl : Accounts run w₀ l) {id b : String}
    {node : Node} {outputs outputs' : Outputs} {outcome : Option Outcome} {s s' : σ}
    {t : List Exchange} (new : id ∉ l.walk.visited) (found : run.graph.node? id = some node)
    (result : (visit run outputs node).run answer s = (.ok (outcome, outputs'), s')) :
    b ∈ successors node outcome (run.graph.outgoingEdges id) ↔
      Follows run.graph (l.stops ++ [⟨node, outputs, .ok outcome, t⟩]) id b := by
  have hfound : run.graph.nodes.reverse.find? (·.id == id) = some node := by rw [← hg.node?, found]
  have leads : LeadsTo run.graph node outcome (successors node outcome (run.graph.outgoingEdges id)) :=
    successors_leadsTo hg found (visit_ok answer result).2
  exact leads.mem_iff_follows hfound rfl rfl (hl.not_stopped new)

/-- Every turn keeps the frontier. -/
theorem Frontier.step (hg : run.graph.Indexed) (h : Frontier run w₀ origin l)
    (hl : Accounts run w₀ l) (step : Step answer run l l') : Frontier run w₀ origin l' := by
  cases step with
  | @again w id rest s stops t seen =>
    have shift : ∀ b, b ∈ w.visited ∨ b ∈ id :: rest → b ∈ w.visited ∨ b ∈ rest :=
      fun _ => mem_or_mem_of_taken seen (fun _ h => h) (fun _ h => h)
    refine ⟨?_, h.reached, fun hf => shift _ (h.started hf), ?_⟩
    · intro a ha
      exact h.pending a (List.mem_cons_of_mem _ ha)
    · intro hf a ha new b hb
      exact shift b (h.followed hf a ha new b hb)
  | @missing w id rest s stops t new missing =>
    have shift : ∀ b, b ∈ w.visited ∨ b ∈ id :: rest → b ∈ id :: w.visited ∨ b ∈ rest :=
      fun _ => mem_or_mem_of_taken List.mem_cons_self (fun _ => List.mem_cons_of_mem id) (fun _ h => h)
    refine ⟨?_, ?_, fun hf => shift _ (h.started hf), ?_⟩
    · intro a ha
      exact h.pending a (List.mem_cons_of_mem _ ha)
    · intro a ha
      rcases List.mem_cons.mp ha with rfl | ha
      · exact h.reached_head rfl
      · exact h.reached a ha
    · intro hf a ha hnew b hb
      rcases List.mem_cons.mp ha with rfl | ha
      · cases hb with
        | fanOut found =>
          rw [← hg.node?, missing] at found
          cases found
        | branch stopped at_ => exact absurd at_ (hl.not_stopped new _ stopped)
      · exact shift b (h.followed hf a ha hnew b hb)
  | @node w id rest s s' stops t node outcome outputs new found result =>
    have shift : ∀ b, b ∈ w.visited ∨ b ∈ id :: rest → b ∈ id :: w.visited ∨
        b ∈ successors node outcome (run.graph.outgoingEdges id) ++ rest :=
      fun _ => mem_or_mem_of_taken List.mem_cons_self (fun _ => List.mem_cons_of_mem id)
        (fun _ => List.mem_append_right _)
    refine ⟨?_, ?_, fun hf => shift _ (h.started hf), ?_⟩
    · intro b hb hnew
      rcases List.mem_append.mp hb with hb | hb
      · rcases h.reached_head rfl with hid | path
        · exact absurd (hl.kept id hid) new
        · exact .follow path.snoc ((hl.mem_successors_iff hg new found result).mp hb) hnew
      · exact (h.pending b (List.mem_cons_of_mem _ hb) hnew).snoc
    · intro a ha
      rcases List.mem_cons.mp ha with rfl | ha
      · exact (h.reached_head rfl).imp_right Reaches.snoc
      · exact (h.reached a ha).imp_right Reaches.snoc
    · intro hf a ha hnew b hb
      rcases List.mem_cons.mp ha with rfl | ha
      · exact .inr (List.mem_append_left _ ((hl.mem_successors_iff hg new found result).mpr hb))
      · have hne : node.id ≠ a := by
          rw [hg.id_eq found]
          rintro rfl
          exact new ha
        exact shift b (h.followed hf a ha hnew b (hb.of_snoc hne))
  | @cut w id rest s s' stops t node e new found result =>
    refine ⟨?_, ?_, (fun ended => by cases ended), (fun ended => by cases ended)⟩
    · intro a ha
      cases ha
    · intro a ha
      rcases List.mem_cons.mp ha with rfl | ha
      · exact (h.reached_head rfl).imp_right Reaches.snoc
      · exact (h.reached a ha).imp_right Reaches.snoc

theorem Frontier.steps (hg : run.graph.Indexed) (h : Frontier run w₀ origin l)
    (hl : Accounts run w₀ l) (steps : Steps answer run l l') : Frontier run w₀ origin l' := by
  induction steps with
  | refl => exact h
  | tail steps step ih => exact ih.step hg (hl.steps hg steps) step

/-- The settings of all stops could be substituted, but for the last of a walk that was cut short. -/
structure Substituted (l : Loop σ) : Prop where
  all : l.failure = none → ∀ stop ∈ l.stops, ∃ settings, stop.settings = .ok settings
  last : ∀ e, l.failure = some e → ∃ stop, l.stops.getLast? = some stop ∧ stop.settings = .error e

theorem Substituted.start (w : Walk) (start : String) (s : σ) : Substituted (.start w start s) where
  all := fun _ _ h => absurd h List.not_mem_nil
  last := by
    intro e he
    cases he

theorem Substituted.step (h : Substituted l) (step : Step answer run l l') : Substituted l' := by
  cases step with
  | again seen => exact ⟨h.all, fun e he => by cases he⟩
  | missing new missing => exact ⟨h.all, fun e he => by cases he⟩
  | node new found result =>
    refine ⟨?_, fun e he => by cases he⟩
    intro ended stop hstop
    rcases List.mem_append.mp hstop with hstop | hstop
    · exact h.all ended stop hstop
    · rw [List.mem_singleton.mp hstop]
      exact visit_settings answer result
  | cut new found result =>
    refine ⟨(fun ended => by cases ended), ?_⟩
    intro e he
    cases he
    exact ⟨_, List.getLast?_concat, visit_error answer result⟩

theorem Substituted.steps (h : Substituted l) (steps : Steps answer run l l') : Substituted l' :=
  kept_of_steps (fun h step => h.step step) h steps

end Loop

end Automation
