import Automation.Proofs.Branching
import Automation.Proofs.Loop

/-!
The walk as a recursion. A recursive visit of an id returns if the id was visited, marks it, returns if
it is no node's, and carries out the node; then it visits the targets to which the node leads, one
subtree after the other. The walk over the stack ends where the recursive visit ends: with the same
walk, after the same exchanges, for every graph and whatever the calls are answered.
-/
namespace Automation

open Proc

mutual

/-- The recursive visit of an id, from a walk to where it ends. -/
inductive Visits {σ : Type} (answer : Answerer σ) (run : RunContext) :
    String → Walk → σ → Ending σ → Prop
  | again {id w s} (seen : id ∈ w.visited) : Visits answer run id w s ⟨none, w, s, []⟩
  | missing {id w s} (new : id ∉ w.visited) (missing : ∀ n ∈ run.graph.nodes, n.id ≠ id) :
      Visits answer run id w s
        ⟨none, { w with visited := id :: w.visited }, ((noteMissing id).run answer s).2,
          (noteMissing id).trace answer s⟩
  | node {id w s s' node outcome outputs ids e} (new : id ∉ w.visited)
      (found : run.graph.nodes.reverse.find? (·.id == id) = some node)
      (result : (visit run w.outputs node).run answer s = (.ok (outcome, outputs), s'))
      (leads : LeadsTo run.graph node outcome ids)
      (below : VisitsAll answer run ids { w.enter id with outputs := outputs } s' e) :
      Visits answer run id w s (e.after ((visit run w.outputs node).trace answer s))
  | cut {id w s s' node f} (new : id ∉ w.visited)
      (found : run.graph.nodes.reverse.find? (·.id == id) = some node)
      (result : (visit run w.outputs node).run answer s = (.error f, s')) :
      Visits answer run id w s
        ⟨some f, w.enter id, s', (visit run w.outputs node).trace answer s⟩

/-- Recursive visits of several ids, one after the other, until one fails. -/
inductive VisitsAll {σ : Type} (answer : Answerer σ) (run : RunContext) :
    List String → Walk → σ → Ending σ → Prop
  | nil {w s} : VisitsAll answer run [] w s ⟨none, w, s, []⟩
  | cons {id ids w s e e'} (first : Visits answer run id w s e) (ended : e.failure = none)
      (rest : VisitsAll answer run ids e.walk e.world e') :
      VisitsAll answer run (id :: ids) w s (e'.after e.trace)
  | cut {id ids w s e f} (first : Visits answer run id w s e) (failed : e.failure = some f) :
      VisitsAll answer run (id :: ids) w s e

end

@[simp] theorem Ending.after_nil {σ : Type} (e : Ending σ) : e.after [] = e := rfl

theorem Ending.after_after {σ : Type} (e : Ending σ) (t t' : List Exchange) :
    (e.after t').after t = e.after (t ++ t') := by
  simp only [Ending.after, List.append_assoc]

section

variable {σ : Type} {answer : Answerer σ} {run : RunContext}

/-- Where a walk ends that goes on from an end with the rest of its stack. -/
def Ending.goOn (answer : Answerer σ) (run : RunContext) (e : Ending σ) (rest : List String) : Ending σ :=
  match e.failure with
  | some _ => e
  | none => (ending answer run e.walk rest e.world).after e.trace

theorem Ending.goOn_of_none {e : Ending σ} (h : e.failure = none) (rest : List String) :
    e.goOn answer run rest = (ending answer run e.walk rest e.world).after e.trace := by
  unfold Ending.goOn
  rw [h]

theorem Ending.goOn_of_some {e : Ending σ} {f : Failure} (h : e.failure = some f)
    (rest : List String) : e.goOn answer run rest = e := by
  unfold Ending.goOn
  rw [h]

theorem Ending.goOn_after (e : Ending σ) (t : List Exchange) (rest : List String) :
    (e.after t).goOn answer run rest = (e.goOn answer run rest).after t := by
  cases h : e.failure with
  | some f =>
    have h' : (e.after t).failure = some f := h
    rw [goOn_of_some h, goOn_of_some h']
  | none =>
    have h' : (e.after t).failure = none := h
    rw [goOn_of_none h, goOn_of_none h', after_after]
    rfl

/-- The stack works off a subtree as the recursion does, and then goes on with what is below it. -/
theorem Visits.ending_cons (hg : run.graph.Indexed) {id : String} {w : Walk} {s : σ} {e : Ending σ}
    (h : Visits answer run id w s e) (rest : List String) :
    ending answer run w (id :: rest) s = e.goOn answer run rest := by
  revert rest
  refine @Visits.rec σ answer run
    (fun id w s e _ => ∀ rest, ending answer run w (id :: rest) s = e.goOn answer run rest)
    (fun ids w s e _ => ∀ rest, ending answer run w (ids ++ rest) s = e.goOn answer run rest)
    ?again ?missing ?node ?cut ?nil ?cons ?stop id w s e h
  case again =>
    intro id w s seen rest
    exact ending_again answer run seen
  case missing =>
    intro id w s new missing rest
    exact ending_missing answer run new (hg.node?_eq_none_iff.mpr missing)
  case node =>
    intro id w s s' node outcome outputs ids e new found result leads below ih rest
    rw [← hg.node?] at found
    have hids : successors node outcome (run.graph.outgoingEdges id) = ids :=
      (successors_leadsTo hg found (visit_ok answer result).2).unique leads
    rw [ending_node answer run new found result, hids, ih, Ending.goOn_after]
  case cut =>
    intro id w s s' node f new found result rest
    rw [← hg.node?] at found
    exact ending_cut answer run new found result
  case nil =>
    intro w s rest
    rfl
  case cons =>
    intro id ids w s e e' first ended below ihFirst ihRest rest
    rw [List.cons_append, ihFirst, Ending.goOn_of_none ended, ihRest, Ending.goOn_after]
  case stop =>
    intro id ids w s e f first failed ih rest
    rw [List.cons_append, ih, Ending.goOn_of_some failed, Ending.goOn_of_some failed]

/-- Visits of two lists of ids are the visits of the first and then, if none fails, of the second. -/
theorem VisitsAll.append_inv {a b : List String} {w : Walk} {s : σ} {e : Ending σ}
    (h : VisitsAll answer run (a ++ b) w s e) :
    ∃ e₁, VisitsAll answer run a w s e₁ ∧
      ((∃ f, e₁.failure = some f) ∧ e = e₁ ∨
        e₁.failure = none ∧ ∃ e₂, VisitsAll answer run b e₁.walk e₁.world e₂ ∧ e = e₂.after e₁.trace) := by
  induction a generalizing w s e with
  | nil => exact ⟨_, .nil, .inr ⟨rfl, e, h, rfl⟩⟩
  | cons id a ih =>
    cases h with
    | cut first failed => exact ⟨e, .cut first failed, .inl ⟨⟨_, failed⟩, rfl⟩⟩
    | cons first ended rest =>
      obtain ⟨e₁, all, ends⟩ := ih rest
      refine ⟨_, .cons first ended all, ?_⟩
      cases ends with
      | inl ends =>
        obtain ⟨failed, rfl⟩ := ends
        exact .inl ⟨failed, rfl⟩
      | inr ends =>
        obtain ⟨ended', e₂, all', rfl⟩ := ends
        exact .inr ⟨ended', e₂, all', Ending.after_after _ _ _⟩

/-- The recursion comes to an end from every walk, and ends where the stack does. -/
theorem visitsAll_ending (hg : run.graph.Indexed) (w : Walk) (stack : List String) (s : σ) :
    VisitsAll answer run stack w s (ending answer run w stack s) := by
  induction w, stack using walkStack.induct run generalizing s with
  | case1 w =>
    rw [ending_nil]
    exact .nil
  | case2 w id rest seen ih =>
    have hseen : id ∈ w.visited := List.contains_iff_mem.mp seen
    rw [ending_again answer run hseen]
    exact .cons (.again hseen) rfl (ih s)
  | case3 w id rest new missing ih =>
    have hnew : id ∉ w.visited := fun h => new (List.contains_iff_mem.mpr h)
    rw [ending_missing answer run hnew missing]
    exact .cons (.missing hnew (hg.node?_eq_none_iff.mp missing)) rfl (ih _)
  | case4 w id rest new node found outgoing ih =>
    have hnew : id ∉ w.visited := fun h => new (List.contains_iff_mem.mpr h)
    have hfound : run.graph.nodes.reverse.find? (·.id == id) = some node := by rw [← hg.node?, found]
    cases result : (visit run w.outputs node).run answer s with
    | mk r s' =>
      cases r with
      | error f =>
        rw [ending_cut answer run hnew found result]
        exact .cut (.cut hnew hfound result) rfl
      | ok r =>
        obtain ⟨outcome, outputs⟩ := r
        rw [ending_node answer run hnew found result]
        have leads := successors_leadsTo hg found (visit_ok answer result).2
        obtain ⟨e₁, below, ends⟩ := (ih outcome outputs s').append_inv
        have first := Visits.node hnew hfound result leads below
        cases ends with
        | inl ends =>
          obtain ⟨⟨f, failed⟩, he⟩ := ends
          rw [he]
          exact .cut first failed
        | inr ends =>
          obtain ⟨ended, e₂, all, he⟩ := ends
          rw [he, Ending.after_after]
          exact .cons first ended all

end

/-- The walk over the stack is the recursive walk: for every graph, every walk so far and every way in
which the calls are answered, the recursion ends in exactly one way, and there the walk ends too, with
the same ids visited, the same order, the same outputs and the same exchanges, cut short by the same
failure or by none. -/
theorem visits_iff_walkFrom {σ : Type} (answer : Answerer σ) (executionId : String)
    (nodes : List Node) (edges : List Edge) (online : Bool) (w : Walk) (start : String) (s : σ)
    (e : Ending σ) :
    let run : RunContext := ⟨executionId, Graph.build nodes edges, online⟩
    Visits answer run start w s e ↔
      (walkFrom run w start).run answer s = ((e.failure, e.walk), e.world) ∧
        (walkFrom run w start).trace answer s = e.trace := by
  intro run
  have hg : run.graph.Indexed := Graph.indexed_build nodes edges
  constructor
  · intro h
    have he : ending answer run w [start] s = e := by
      rw [h.ending_cons hg []]
      cases hf : e.failure with
      | some f => exact Ending.goOn_of_some hf []
      | none =>
        rw [Ending.goOn_of_none hf, ending_nil]
        simp [Ending.after, ← hf]
    rw [← he]
    exact ⟨rfl, rfl⟩
  · rintro ⟨hr, ht⟩
    have he : ending answer run w [start] s = e := by
      rw [walkFrom] at hr ht
      rw [ending, hr, ht]
    have h : VisitsAll answer run [start] w s (ending answer run w [start] s) :=
      visitsAll_ending hg w [start] s
    rw [he] at h
    cases h with
    | cut first failed => exact first
    | cons first ended rest =>
      cases rest with
      | nil =>
        rename_i e₁
        cases e₁
        cases ended
        simpa [Ending.after] using first

end Automation
