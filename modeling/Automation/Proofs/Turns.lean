import Automation.Proofs.Reading
import Automation.Run.Rehearsal
import Mathlib.Data.List.Perm.Subperm

/-!
How often the loop of a walk turns. The loop runs here with an account of its stack: the ids that were
taken from it, and the edges whose targets were put on it. Only the edges of a newly visited id are put
on, so each edge is put on at most once, whatever becomes of the nodes. What is ever taken is therefore
the start and at most one id for each edge, and a loop that nothing cuts short is then at its end. With
the account left out, the loop is the walk.
-/
namespace Automation

open Proc

/-- The edges along which a walk goes on from a node: of a condition the one with the label of its
result, of other nodes all. -/
def edgesTaken (node : Node) (outcome : Option Outcome) (outgoing : List Edge) : List Edge :=
  if node.isCondition then
    match outcome with
    | some (.output output) =>
      (outgoing.find? fun e => e.label.getD "" == branchLabel (holds output)).toList
    | _ => []
  else outgoing

section

variable (node : Node) (outcome : Option Outcome) (outgoing : List Edge)

theorem map_target_edgesTaken :
    (edgesTaken node outcome outgoing).map (·.target) = successors node outcome outgoing := by
  unfold edgesTaken successors
  split
  · cases outcome with
    | none => rfl
    | some outcome =>
      cases outcome with
      | error text => rfl
      | output output => exact Option.toList_map.symm
  · rfl

theorem edgesTaken_sublist : (edgesTaken node outcome outgoing).Sublist outgoing := by
  unfold edgesTaken
  split
  · split
    · next output =>
      cases found : outgoing.find? fun e => e.label.getD "" == branchLabel (holds output) with
      | none => exact List.nil_sublist _
      | some e => exact List.singleton_sublist.mpr (List.mem_of_find?_eq_some found)
    · exact List.nil_sublist _
  · exact List.Sublist.refl _

end

/-- A way to carry out the nodes of a walk: it makes calls, and then fails or says how the node ended and
which outputs there are now. -/
abbrev Conduct := Outputs → Node → Proc (Except Failure (Option Outcome × Outputs))

/-- A walk at the head of its loop, with an account of its stack: the ids taken from it and the edges whose
targets were put on it, in order. What a failure leaves on the stack stays there. -/
structure Tally where
  walk : Walk
  stack : List String
  failure : Option Failure := none
  popped : List String := []
  pushed : List Edge := []

namespace Tally

/-- A walk before its first turn. -/
def start (w : Walk) (start : String) : Tally := { walk := w, stack := [start] }

/-- A turn of the loop. It takes an id from the stack and, if this is that of a node not visited before,
carries out the node and puts the targets of the edges that it takes in the place of the id. A loop that
has halted takes no turn. -/
def turn (graph : Graph) (conduct : Conduct) (t : Tally) : Proc Tally :=
  match t.failure, t.stack with
  | none, id :: rest =>
    let taken : Tally := { t with stack := rest, popped := t.popped ++ [id] }
    if t.walk.visited.contains id then .done taken
    else
      match graph.node? id with
      | none =>
        (noteMissing id).bind fun _ =>
          .done { taken with walk := { t.walk with visited := id :: t.walk.visited } }
      | some node =>
        (conduct t.walk.outputs node).bind fun ended =>
          match ended with
          | .error e => .done { taken with walk := t.walk.enter id, failure := some e }
          | .ok (outcome, outputs) =>
            let edges := edgesTaken node outcome (graph.outgoingEdges id)
            .done { taken with
              walk := { t.walk.enter id with outputs := outputs }
              stack := edges.map (·.target) ++ rest
              pushed := t.pushed ++ edges }
  | _, _ => .done t

/-- Some turns of the loop, or fewer if it halts before. -/
def turns (graph : Graph) (conduct : Conduct) : Nat → Tally → Proc Tally
  | 0, t => .done t
  | n + 1, t => (t.turn graph conduct).bind (turns graph conduct n)

/-- A loop that has no further turn: it was cut short, or its stack is empty. -/
def Halted (t : Tally) : Prop := t.failure ≠ none ∨ t.stack = []

section

variable {σ : Type} {answer : Answerer σ} {graph : Graph} {conduct : Conduct} {t t' : Tally}

/-- What a turn may do. It takes an id that was visited before and leaves it at that, or it visits a new
id and puts on targets of edges that leave the id, or it is cut short at the node of a new id. -/
inductive Turned (answer : Answerer σ) (graph : Graph) (conduct : Conduct) : Tally → Tally → Prop
  | again {w id rest popped pushed} (seen : id ∈ w.visited) :
      Turned answer graph conduct ⟨w, id :: rest, none, popped, pushed⟩
        ⟨w, rest, none, popped ++ [id], pushed⟩
  | enter {w w' id rest popped pushed edges} (new : id ∉ w.visited)
      (visited : w'.visited = id :: w.visited) (leave : edges.Sublist (graph.outgoingEdges id)) :
      Turned answer graph conduct ⟨w, id :: rest, none, popped, pushed⟩
        ⟨w', edges.map (·.target) ++ rest, none, popped ++ [id], pushed ++ edges⟩
  | cut {w id rest popped pushed node e s} (new : id ∉ w.visited) (found : graph.node? id = some node)
      (failed : ((conduct w.outputs node).run answer s).1 = .error e) :
      Turned answer graph conduct ⟨w, id :: rest, none, popped, pushed⟩
        ⟨w.enter id, rest, some e, popped ++ [id], pushed⟩

theorem turn_of_halted (halted : t.Halted) : t.turn graph conduct = .done t := by
  unfold turn
  split
  · next failure stack =>
    rcases halted with cut | empty
    · exact absurd failure cut
    · rw [stack] at empty
      cases empty
  · rfl

theorem turned_of_not_halted (going : ¬t.Halted) (s : σ) :
    Turned answer graph conduct t ((t.turn graph conduct).run answer s).1 := by
  obtain ⟨w, stack, failure, popped, pushed⟩ := t
  obtain ⟨uncut, some_id⟩ := not_or.mp going
  obtain rfl : failure = none := not_not.mp uncut
  obtain ⟨id, rest, rfl⟩ := List.exists_cons_of_ne_nil some_id
  simp only [turn]
  split
  · next seen => exact .again (List.contains_iff_mem.mp seen)
  · next new =>
    have hnew : id ∉ w.visited := fun there => new (List.contains_iff_mem.mpr there)
    split
    · simpa using Turned.enter hnew rfl (List.nil_sublist _)
    · next node found =>
      rw [run_bind]
      split
      · next e failed => exact .cut hnew found failed
      · exact .enter hnew rfl (edgesTaken_sublist _ _ _)

/-- A loop that has halted stays as it is. -/
theorem turns_of_halted (halted : t.Halted) (n : Nat) : turns graph conduct n t = .done t := by
  induction n with
  | zero => rfl
  | succ n ih => rw [turns, turn_of_halted halted, bind_done, ih]

/-- What every turn keeps is kept by any number of turns. -/
theorem kept_of_turns {P : Tally → Prop} (step : ∀ {t t'}, P t → Turned answer graph conduct t t' → P t')
    (n : Nat) (h : P t) (s : σ) : P ((turns graph conduct n t).run answer s).1 := by
  induction n generalizing t s with
  | zero => exact h
  | succ n ih =>
    by_cases halted : t.Halted
    · rw [turns_of_halted halted]
      exact h
    · rw [turns, run_bind]
      exact ih (step h (turned_of_not_halted halted s)) _

/-- Every turn takes one id. -/
theorem Turned.length_popped (turned : Turned answer graph conduct t t') :
    t'.popped.length = t.popped.length + 1 := by
  cases turned <;> exact List.length_append

/-- Unless the loop halts before, as many ids are taken as there are turns. -/
theorem halted_or_length_popped (n : Nat) (s : σ) :
    let last := ((turns graph conduct n t).run answer s).1
    last.Halted ∨ last.popped.length = t.popped.length + n := by
  induction n generalizing t s with
  | zero => exact .inr rfl
  | succ n ih =>
    by_cases halted : t.Halted
    · rw [turns_of_halted halted]
      exact .inl halted
    · rw [turns, run_bind]
      have turned : Turned answer graph conduct t ((t.turn graph conduct).run answer s).1 :=
        turned_of_not_halted halted s
      refine (ih _).imp_right fun counted => ?_
      rw [counted, turned.length_popped]
      omega

/-- The edges of the visited ids, and of a new one. -/
theorem filter_visited_perm {visited : List String} {id : String} (new : id ∉ visited) (edges : List Edge) :
    (edges.filter fun e => (id :: visited).contains e.source).Perm
      ((edges.filter fun e => visited.contains e.source) ++ edges.filter (·.source == id)) := by
  induction edges with
  | nil => exact .refl _
  | cons e rest ih =>
    by_cases source : e.source = id
    · have unvisited : visited.contains id = false := by simpa using new
      simp only [List.filter_cons, List.contains_cons, source, unvisited, beq_self_eq_true, Bool.true_or,
        if_true, Bool.false_eq_true, if_false]
      exact (ih.cons e).trans List.perm_middle.symm
    · have other : (e.source == id) = false := by simpa using source
      simp only [List.filter_cons, List.contains_cons, other, Bool.false_or]
      split
      · exact ih.cons e
      · exact ih

/-- The account of a loop balances: what was put on the stack are edges of visited ids, each at most once,
and what was taken or is still there is what was put on, and the start. -/
structure Balanced (graph : Graph) (start : String) (t : Tally) : Prop where
  once : t.pushed.Subperm (graph.edges.filter fun e => t.walk.visited.contains e.source)
  total : (t.popped ++ t.stack).Perm (start :: t.pushed.map (·.target))

theorem balanced_start (graph : Graph) (w : Walk) (start : String) :
    Balanced graph start (.start w start) where
  once := List.nil_subperm
  total := .refl _

theorem Balanced.enter (hg : graph.Indexed) {start id : String} {rest : List String} {edges : List Edge}
    (h : Balanced graph start t) (stack : t.stack = id :: rest) (new : id ∉ t.walk.visited)
    (leave : edges.Sublist (graph.outgoingEdges id)) (visited : t'.walk.visited = id :: t.walk.visited)
    (stack' : t'.stack = edges.map (·.target) ++ rest) (popped : t'.popped = t.popped ++ [id])
    (pushed : t'.pushed = t.pushed ++ edges) : Balanced graph start t' where
  once := by
    rw [hg.outgoingEdges] at leave
    rw [pushed, visited]
    exact (h.once.append leave.subperm).trans (filter_visited_perm new graph.edges).symm.subperm
  total := by
    have before := h.total
    rw [stack] at before
    have behind : (t.popped ++ id :: (edges.map (·.target) ++ rest)).Perm
        (t.popped ++ id :: rest ++ edges.map (·.target)) := by
      rw [List.append_assoc, List.cons_append]
      exact (List.perm_append_comm.cons id).append_left t.popped
    rw [popped, stack', pushed, List.map_append, List.append_assoc, List.singleton_append]
    exact behind.trans (before.append_right _)

theorem Balanced.turned (hg : graph.Indexed) {start : String} (h : Balanced graph start t)
    (turned : Turned answer graph conduct t t') : Balanced graph start t' := by
  cases turned with
  | again seen =>
    refine ⟨h.once, ?_⟩
    simpa using h.total
  | enter new visited leave => exact h.enter hg rfl new leave visited rfl rfl rfl
  | cut new found failed =>
    exact h.enter hg rfl new (List.nil_sublist _) rfl rfl rfl (List.append_nil _).symm

/-- What was taken and what is on the stack are no more ids than there are edges, and the start. -/
theorem Balanced.length_le {start : String} (h : Balanced graph start t) :
    t.popped.length + t.stack.length ≤ graph.edges.length + 1 := by
  have total := h.total.length_eq
  have once := (h.once.trans List.filter_sublist.subperm).length_le
  simp only [List.length_append, List.length_cons, List.length_map] at total
  omega

/-- With more turns than there are edges a loop halts. -/
theorem halted_of_turns (hg : graph.Indexed) (w : Walk) (start : String) {n : Nat}
    (enough : graph.edges.length < n) (s : σ) :
    ((turns graph conduct n (.start w start)).run answer s).1.Halted := by
  have balanced : Balanced graph start ((turns graph conduct n (.start w start)).run answer s).1 :=
    kept_of_turns (fun h turned => h.turned hg turned) n (balanced_start graph w start) s
  rcases halted_or_length_popped n s with halted | counted
  · exact halted
  · right
    have bound := balanced.length_le
    rw [counted] at bound
    exact List.length_eq_zero_iff.mp (by omega)

/-- Where a loop was cut short: at the node of the id taken last, which was not carried out. -/
def CutAt (answer : Answerer σ) (graph : Graph) (conduct : Conduct) (t : Tally) : Prop :=
  ∀ e, t.failure = some e → ∃ id node s, t.popped.getLast? = some id ∧ graph.node? id = some node ∧
    ((conduct t.walk.outputs node).run answer s).1 = .error e

theorem CutAt.turned (turned : Turned answer graph conduct t t') : CutAt answer graph conduct t' := by
  cases turned with
  | again seen => exact fun e cut => by cases cut
  | enter new visited leave => exact fun e cut => by cases cut
  | cut new found failed =>
    rintro _ ⟨⟩
    exact ⟨_, _, _, List.getLast?_concat, found, failed⟩

/-- What a loop that stands between two turns comes to, as a walk. -/
def goOn (run : RunContext) (t : Tally) : Proc (Option Failure × Walk) :=
  match t.failure with
  | some e => .done (some e, t.walk)
  | none => walkStack run t.walk t.stack

theorem goOn_of_halted {run : RunContext} (halted : t.Halted) : t.goOn run = .done (t.failure, t.walk) := by
  unfold goOn
  split
  · next failure => rw [failure]
  · next uncut =>
    have empty : t.stack = [] := halted.resolve_left fun cut => cut uncut
    rw [empty, walkStack, uncut]

/-- A turn leads the walk one id further. -/
theorem turn_goOn (run : RunContext) (t : Tally) :
    (t.turn run.graph (visit run)).bind (goOn run) = t.goOn run := by
  by_cases halted : t.Halted
  · rw [turn_of_halted halted, bind_done]
  obtain ⟨w, stack, failure, popped, pushed⟩ := t
  obtain ⟨uncut, some_id⟩ := not_or.mp halted
  obtain rfl : failure = none := not_not.mp uncut
  obtain ⟨id, rest, rfl⟩ := List.exists_cons_of_ne_nil some_id
  simp only [turn, goOn]
  rw [walkStack]
  by_cases seen : w.visited.contains id = true
  · rw [if_pos seen, dif_pos seen]
    rfl
  · rw [if_neg seen, dif_neg seen]
    cases found : run.graph.node? id with
    | none => rfl
    | some node =>
      simp only [Proc.bind_assoc]
      refine congrArg _ (funext fun ended => ?_)
      cases ended with
      | error e => rfl
      | ok r =>
        obtain ⟨outcome, outputs⟩ := r
        simp only [bind_done, map_target_edgesTaken]
        rfl

theorem turns_goOn (run : RunContext) (n : Nat) (t : Tally) :
    (turns run.graph (visit run) n t).bind (goOn run) = t.goOn run := by
  induction n generalizing t with
  | zero => rfl
  | succ n ih => simp only [turns, Proc.bind_assoc, ih, turn_goOn]

end

end Tally

/-- The loop of a walk ends, whatever the graph is, whatever was visited before and whatever becomes of the
nodes. At every head of the loop, what it took from the stack and what is still there are the start and the
targets of edges that it put on, each of them an edge of the graph and none put on more than once. So it
takes at most one id more than there are edges, and then it is cut short or its stack is empty. With nodes
carried out as they are, this loop is the walk, and only a node whose settings cannot be substituted cuts
it short; there is no such node as long as the network answers with data that can be written. -/
theorem walk_takes_each_edge_once {σ : Type} (answer : Answerer σ) (executionId : String)
    (nodes : List Node) (edges : List Edge) (online : Bool) (w : Walk) (start : String) (s : σ) :
    let graph := Graph.build nodes edges
    let run : RunContext := ⟨executionId, graph, online⟩
    (∀ (conduct : Conduct) (turns : Nat),
      let t := ((Tally.turns graph conduct turns (.start w start)).run answer s).1
      t.pushed.Subperm edges ∧ (t.popped ++ t.stack).Perm (start :: t.pushed.map (·.target)) ∧
        t.popped.length ≤ edges.length + 1 ∧
        (edges.length < turns → t.failure = none → t.stack = [])) ∧
    ∀ turns, edges.length < turns →
      let loop := Tally.turns graph (visit run) turns (.start w start)
      let t := (loop.run answer s).1
      (walkFrom run w start).run answer s = ((t.failure, t.walk), (loop.run answer s).2) ∧
        (walkFrom run w start).trace answer s = loop.trace answer s ∧
        (∀ e, t.failure = some e → ∃ id node, t.popped.getLast? = some id ∧
          graph.node? id = some node ∧ t.walk.outputs.resolveFields Stack.setting node.settings = .error e) ∧
        (NetworkWritable answer → w.outputs.CanBeWritten → t.failure = none) := by
  intro graph run
  have hg : graph.Indexed := Graph.indexed_build nodes edges
  constructor
  · intro conduct turns t
    have balanced : t.Balanced graph start :=
      Tally.kept_of_turns (fun h turned => h.turned hg turned) turns (Tally.balanced_start graph w start) s
    have bound : t.popped.length + t.stack.length ≤ edges.length + 1 := balanced.length_le
    refine ⟨balanced.once.trans List.filter_sublist.subperm, balanced.total, by omega, fun enough uncut => ?_⟩
    have halted : t.Halted := Tally.halted_of_turns hg w start enough s
    exact halted.resolve_left fun cut => cut uncut
  · intro turns enough loop t
    have halted : t.Halted := Tally.halted_of_turns hg w start enough s
    have walk : loop.bind (Tally.goOn run) = walkFrom run w start := Tally.turns_goOn run turns (.start w start)
    have result : (walkFrom run w start).run answer s = ((t.failure, t.walk), (loop.run answer s).2) := by
      rw [← walk, run_bind, Tally.goOn_of_halted halted]
      rfl
    refine ⟨result, ?_, ?_, ?_⟩
    · rw [← walk, trace_bind, Tally.goOn_of_halted halted, trace_done, List.append_nil]
    · intro e cut
      have cutAt : t.CutAt answer graph (visit run) :=
        Tally.kept_of_turns (fun _ turned => .turned turned) turns (fun e cut => by cases cut) s
      obtain ⟨id, node, s', last, found, failed⟩ := cutAt e cut
      exact ⟨id, node, last, found, visit_error answer (Prod.ext failed rfl)⟩
    · intro network writable
      obtain ⟨walk, s', uncut⟩ := walkFrom_uncut network run writable start s
      rw [result] at uncut
      exact congrArg (·.1.1) uncut

/-- A walk that is cut short with an id on its stack: the settings of a node ask for a reply that was read and is
nested too deep to be written, and the target of the other edge of the start is never taken. -/
theorem walk_leaves_id_on_stack :
    let edges : List Edge := [⟨"t", "h", none⟩, ⟨"t", "d", none⟩, ⟨"h", "m", none⟩]
    let run : RunContext := ⟨"e", Graph.build
      [{ id := "t", type := "trigger" }, { id := "h", type := "http" },
        { id := "m", type := "email"
          settings := [("recipient", .str "\x7b\x7bcontext.outputs.h.response\x7d\x7d")] },
        { id := "d", type := "delay" }] edges, true⟩
    let script : Script := { replies := [Http.decodeResponse Http.deepReply] }
    let world := Rehearsal.start script [] [] default
    let t := ((Tally.turns run.graph (visit run) (edges.length + 1) (.start {} "t")).run
      Rehearsal.answer world).1
    ((walkFrom run {} "t").run Rehearsal.answer world).1.2.order = ["t", "h", "m"] ∧
      t.failure.isSome = true ∧ t.popped = ["t", "h", "m"] ∧ t.stack = ["d"] := by
  rw [Http.decodeResponse_deepReply]
  decide +kernel

/-- In a graph with a loop, a cycle, parallel edges and an edge to nowhere, every edge is put on the stack
and taken from it. -/
example :
    let edges : List Edge :=
      [⟨"t", "t", none⟩, ⟨"t", "a", none⟩, ⟨"t", "a", none⟩, ⟨"a", "t", none⟩, ⟨"a", "x", none⟩]
    let run : RunContext :=
      ⟨"e", Graph.build [{ id := "t", type := "trigger" }, { id := "a", type := "delay" }] edges, true⟩
    let t := ((Tally.turns run.graph (visit run) (edges.length + 1) (.start {} "t")).run Rehearsal.answer
      (Rehearsal.start {} [] [] default)).1
    t.popped = ["t", "t", "a", "t", "x", "a"] ∧ t.stack = [] ∧ t.pushed.Perm edges := by
  decide +kernel

end Automation
