import Automation.Proofs.Contract
import Automation.Proofs.Loop
import Automation.Proofs.Stores

/-!
Runs that are under way at the same time. Each waits at a call until it is its turn; the call is answered
by the stores, the log and the network that all runs share. A run makes no calls about other executions
than its own, whatever the others do, as long as the stores keep every record under its own id.
-/
namespace Automation

open Proc

/-- The calls that are about no other execution. -/
def Call.Of (id : String) : Call → Prop
  | .loadExecution asked => asked = id
  | .saveExecution e => e.id = id
  | .appendLog entry => entry.executionId = id
  | _ => True

/-- A record that was loaded has the id under which it was asked for. -/
def Exchange.Own : Exchange → Prop
  | ⟨.loadExecution asked, answer⟩ => ∀ e, answer = .ok (some e) → e.id = asked
  | _ => True

/-- Calls about one execution only, where records are kept under their own ids. -/
def Contract.own (id : String) : Contract Unit where
  admits := fun _ c => c.Of id
  allows := fun _ x _ => x.Own

theorem Records.own {σ : Type} {answer : Answerer σ} {record : σ → String → Option Execution}
    (records : Records answer record) {s : σ} (keyed : Keyed (record s)) (c : Call) :
    Exchange.Own ⟨c, (answer c s).1⟩ := by
  cases c with
  | loadExecution asked =>
    intro e loaded
    exact keyed asked e (records.load asked s _ loaded).symm
  | _ => trivial

theorem Call.OfWalk.of {c : Call} {id : String} (h : c.OfWalk id) : c.Of id := by
  cases c <;> first | exact h | exact h.elim

section

variable {id : String}

theorem walkFrom_own (run : RunContext) (w : Walk) (start : String) :
    (walkFrom run w start).Under (.own run.executionId) () fun _ _ => True :=
  ((walkStack_only run w [start]).under (fun _ h => h.of) fun _ _ _ _ _ => rfl).mono fun _ _ _ => trivial

theorem finish_own {e : Execution} (own : e.id = id) (status : Status) :
    (finish e status).Under (.own id) () fun _ _ => True := by
  refine .ask trivial fun now _ _ => ?_
  refine .ask own fun saved _ _ => ?_
  cases saved with
  | error failure => exact trivial
  | ok => exact .ask trivial fun _ _ _ => trivial

theorem followWorkflow_own (settings : EngineSettings) {e : Execution} (own : e.id = id) (w : Workflow) :
    (followWorkflow settings e w).Under (.own id) () fun _ _ => True := by
  unfold followWorkflow
  cases triggered : (Graph.ofWorkflow w).trigger? with
  | none =>
    simp only [triggered]
    exact .ask trivial fun _ _ _ => finish_own own _
  | some trigger =>
    simp only [triggered]
    refine .ask trivial fun _ _ _ => ?_
    subst own
    refine (walkFrom_own ⟨e.id, _, _⟩ _ _).bind fun (failure, walk) _ _ => ?_
    cases failure with
    | some failure => exact trivial
    | none =>
      refine .ask trivial fun _ _ _ => finish_own ?_ _
      split <;> rfl

theorem carryOutExecution_own (settings : EngineSettings) {e : Execution} (own : e.id = id) :
    (carryOutExecution settings e).Under (.own id) () fun _ _ => True := by
  refine .ask trivial fun now _ _ => ?_
  have own' : Execution.id { e with status := .running, startedAt := some now } = id := own
  refine .ask own' fun saved _ _ => ?_
  cases saved with
  | error failure => exact trivial
  | ok =>
    refine .ask trivial fun loaded _ _ => ?_
    match loaded with
    | .error failure => exact trivial
    | .ok none => exact .ask trivial fun _ _ _ => finish_own own' _
    | .ok (some w) => exact followWorkflow_own settings own' w

theorem runExecution_own (settings : EngineSettings) (id : String) :
    (runExecution settings id).Under (.own id) () fun _ _ => True := by
  refine .ask rfl fun loaded _ kept => ?_
  match loaded, kept with
  | .error failure, _ => exact trivial
  | .ok none, _ => exact .ask trivial fun _ _ _ => trivial
  | .ok (some e), kept =>
    have own : e.id = id := kept e rfl
    refine .ask trivial fun _ _ _ => ?_
    refine (carryOutExecution_own settings own).bind fun result _ _ => ?_
    exact .ask trivial fun _ _ _ => trivial

theorem markFailed_own (id : String) : (markFailed id).Under (.own id) () fun _ _ => True := by
  refine .ask rfl fun loaded _ kept => ?_
  match loaded, kept with
  | .error failure, _ => exact .ask (f := .done) trivial fun _ _ _ => trivial
  | .ok none, _ => exact trivial
  | .ok (some e), kept =>
    have own : e.id = id := kept e rfl
    simp only
    split
    · exact trivial
    · refine .ask trivial fun now _ _ => ?_
      refine .ask own fun saved _ _ => ?_
      cases saved with
      | ok => exact trivial
      | error failure => exact .ask (f := .done) trivial fun _ _ _ => trivial

/-- A guarded run is about its own execution only. -/
theorem runGuarded_own (settings : EngineSettings) (id : String) :
    (runGuarded settings id).Under (.own id) () fun _ _ => True := by
  refine (runExecution_own settings id).bind fun result _ _ => ?_
  cases result with
  | ok e => exact trivial
  | error failure =>
    refine .ask trivial fun _ _ _ => ?_
    exact (markFailed_own id).bind fun _ _ _ => trivial

end

/-- A procedure under way on behalf of an execution: what is left of it. -/
structure Task (α : Type) where
  id : String
  rest : Proc α

/-- There is nothing left to be done. -/
def Task.Finished {α : Type} (task : Task α) : Prop := ∃ a, task.rest = .done a

theorem Task.not_finished {α : Type} {id : String} {c : Call} {next : c.Answer → Proc α} :
    ¬(⟨id, .call c next⟩ : Task α).Finished := by
  rintro ⟨a, h⟩
  cases h

/-- A finished task makes no calls. -/
theorem Task.Finished.under {α ρ : Type} {task : Task α} (h : task.Finished) (contract : Contract ρ)
    (r : ρ) : task.rest.Under contract r fun _ _ => True := by
  obtain ⟨a, ha⟩ := h
  rw [ha]
  exact trivial

/-- Procedures under way at the same time, and all that was exchanged so far, by the number of the
task. -/
structure Pool (σ α : Type) where
  tasks : List (Task α) := []
  world : σ
  trace : List (Nat × Exchange) := []

namespace Pool

variable {σ α : Type}

/-- Whoever goes on at a task asks a call, and is answered. -/
def answered (answer : Answerer σ) (pool : Pool σ α) (i : Nat) (id : String) (c : Call)
    (next : c.Answer → Proc α) : Pool σ α where
  tasks := pool.tasks.set i ⟨id, next (answer c pool.world).1⟩
  world := (answer c pool.world).2
  trace := pool.trace ++ [(i, ⟨c, (answer c pool.world).1⟩)]

/-- One call of one of the tasks. -/
inductive Step (answer : Answerer σ) : Pool σ α → Pool σ α → Prop
  | call {pool i id c next} (turn : pool.tasks[i]? = some ⟨id, .call c next⟩) :
      Step answer pool (pool.answered answer i id c next)

/-- Any number of calls. -/
abbrev Steps (answer : Answerer σ) : Pool σ α → Pool σ α → Prop := Relation.ReflTransGen (Step answer)

/-- The exchanges of a task, in order. -/
def exchanges (pool : Pool σ α) (i : Nat) : List Exchange :=
  (pool.trace.filter (·.1 == i)).map (·.2)

section

variable {answer : Answerer σ} {pool pool' : Pool σ α} {i j : Nat} {id : String} {c : Call}
  {next : c.Answer → Proc α} {task : Task α}

theorem exchanges_answered_self :
    (pool.answered answer i id c next).exchanges i =
      pool.exchanges i ++ [⟨c, (answer c pool.world).1⟩] := by
  simp [exchanges, answered]

theorem exchanges_answered_other (other : j ≠ i) :
    (pool.answered answer i id c next).exchanges j = pool.exchanges j := by
  simp [exchanges, answered, other.symm]

theorem ids_answered (turn : pool.tasks[i]? = some ⟨id, .call c next⟩) :
    (pool.answered answer i id c next).tasks.map (·.id) = pool.tasks.map (·.id) := by
  have before : (pool.tasks.map (·.id))[i]? = some id := by
    rw [List.getElem?_map, turn]
    rfl
  obtain ⟨there, is⟩ := List.getElem?_eq_some_iff.mp before
  rw [answered, List.map_set]
  exact (congrArg _ is.symm).trans (List.set_getElem_self there)

/-- A task after a call was answered is the one that made the call, gone on, or another as it was. -/
theorem tasks_answered (h : (pool.answered answer i id c next).tasks[j]? = some task) :
    j = i ∧ task = ⟨id, next (answer c pool.world).1⟩ ∨ j ≠ i ∧ pool.tasks[j]? = some task := by
  simp only [answered, List.getElem?_set] at h
  by_cases same : i = j
  · rw [if_pos same] at h
    split at h
    · cases h
      exact .inl ⟨same.symm, rfl⟩
    · cases h
  · rw [if_neg same] at h
    exact .inr ⟨Ne.symm same, h⟩

end

/-- Every task makes calls about its own execution only, and every record is kept under its own id. -/
structure Confined (record : σ → String → Option Execution) (pool : Pool σ α) : Prop where
  keyed : Keyed (record pool.world)
  own : ∀ (i : Nat) (task : Task α), pool.tasks[i]? = some task →
    task.rest.Under (.own task.id) () fun _ _ => True

section

variable {answer : Answerer σ} {record : σ → String → Option Execution} {pool pool' : Pool σ α}
  {i : Nat} {id : String} {c : Call} {next : c.Answer → Proc α}

theorem Confined.admits (h : Confined record pool) (turn : pool.tasks[i]? = some ⟨id, .call c next⟩) :
    c.Of id :=
  (h.own i _ turn).1

/-- A call of a task keeps all tasks confined. -/
theorem Confined.answered (records : Records answer record) (h : Confined record pool)
    (turn : pool.tasks[i]? = some ⟨id, .call c next⟩) :
    Confined record (pool.answered answer i id c next) := by
  constructor
  · exact records.keyed h.keyed c
  · intro j task there
    rcases tasks_answered there with ⟨-, rfl⟩ | ⟨-, there⟩
    · exact (h.own i _ turn).answered (records.own h.keyed c)
    · exact h.own j task there

/-- A call of a task changes no record but its own. -/
theorem Confined.record_other (records : Records answer record) (h : Confined record pool)
    (turn : pool.tasks[i]? = some ⟨id, .call c next⟩) {other : String} (ne : other ≠ id) :
    record (pool.answered answer i id c next).world other = record pool.world other := by
  have ofOwn : c.Of id := h.admits turn
  rcases c.reading_or_save with reading | ⟨e, rfl⟩
  · exact congrFun (records.reads c pool.world reading) other
  · have own : e.id = id := ofOwn
    exact records.save_other (own ▸ ne.symm) pool.world

end

/-- A further task. -/
def enter (pool : Pool σ α) (id : String) (p : Proc α) : Pool σ α :=
  { pool with tasks := pool.tasks ++ [⟨id, p⟩] }

section

variable {pool : Pool σ α} {i : Nat} {id : String} {p : Proc α} {task : Task α}

/-- The tasks of a pool that another entered: those that there were, and the new one. -/
theorem tasks_enter (h : (pool.enter id p).tasks[i]? = some task) :
    pool.tasks[i]? = some task ∨ i = pool.tasks.length ∧ task = ⟨id, p⟩ := by
  rw [enter, List.getElem?_append] at h
  split at h
  · exact .inl h
  · rw [List.getElem?_singleton] at h
    split at h
    · cases h
      exact .inr ⟨by omega, rfl⟩
    · cases h

theorem Confined.enter {record : σ → String → Option Execution} (h : Confined record pool)
    (own : p.Under (.own id) () fun _ _ => True) : Confined record (pool.enter id p) := by
  refine ⟨h.keyed, ?_⟩
  intro i task there
  rcases tasks_enter there with there | ⟨-, rfl⟩
  · exact h.own i task there
  · exact own

/-- The pool after one task was carried out to its end, while all others waited. -/
def carriedOut (answer : Answerer σ) (pool : Pool σ α) (i : Nat) (id : String) (p : Proc α) :
    Pool σ α where
  tasks := pool.tasks.set i ⟨id, .done (p.run answer pool.world).1⟩
  world := (p.run answer pool.world).2
  trace := pool.trace ++ (p.trace answer pool.world).map (i, ·)

theorem carriedOut_self (answer : Answerer σ) (turn : pool.tasks[i]? = some ⟨id, p⟩) :
    (pool.carriedOut answer i id p).tasks[i]? = some ⟨id, .done (p.run answer pool.world).1⟩ :=
  List.getElem?_set_self (List.getElem?_eq_some_iff.mp turn).1

theorem carriedOut_other (answer : Answerer σ) {j : Nat} (other : i ≠ j) :
    (pool.carriedOut answer i id p).tasks[j]? = pool.tasks[j]? :=
  List.getElem?_set_ne other

/-- A task can be carried out to its end. -/
theorem steps_carriedOut (answer : Answerer σ) (turn : pool.tasks[i]? = some ⟨id, p⟩) :
    Steps answer pool (pool.carriedOut answer i id p) := by
  induction p generalizing pool with
  | done a =>
    obtain ⟨there, is⟩ := List.getElem?_eq_some_iff.mp turn
    have same : pool.carriedOut answer i id (.done a) = pool := by
      rw [carriedOut, run_done, ← is, List.set_getElem_self, trace_done, List.map_nil, List.append_nil]
    rw [same]
  | call c next ih =>
    have there : i < pool.tasks.length := (List.getElem?_eq_some_iff.mp turn).1
    have first : Step answer pool (pool.answered answer i id c next) := .call turn
    have rest : Steps answer (pool.answered answer i id c next) _ := ih _ (List.getElem?_set_self there)
    have same : (pool.answered answer i id c next).carriedOut answer i id (next (answer c pool.world).1) =
        pool.carriedOut answer i id (.call c next) := by
      simp only [carriedOut, answered, List.set_set, List.append_assoc]
      rfl
    rw [← same]
    exact .head first rest

end

/-- What is left after a call of a procedure is answered. -/
inductive Follows : Proc α → Proc α → Prop
  | answered {c : Call} {next : c.Answer → Proc α} (a : c.Answer) : Follows (next a) (.call c next)

/-- One of some procedures goes on by a call. -/
inductive OneFollows : List (Proc α) → List (Proc α) → Prop
  | head {p' p rest} (goesOn : Follows p' p) : OneFollows (p' :: rest) (p :: rest)
  | tail {p rest' rest} (goesOn : OneFollows rest' rest) : OneFollows (p :: rest') (p :: rest)

theorem acc_follows (p : Proc α) : Acc Follows p := by
  induction p with
  | done a => exact ⟨_, fun p' h => by cases h⟩
  | call c next ih =>
    refine ⟨_, fun p' h => ?_⟩
    cases h with
    | answered a => exact ih a

/-- Procedures that take turns come to an end, as each of them does. -/
theorem acc_oneFollows (ps : List (Proc α)) : Acc OneFollows ps := by
  induction ps with
  | nil => exact ⟨_, fun ps' h => by cases h⟩
  | cons p rest ih =>
    have first := acc_follows p
    induction first generalizing rest with
    | intro p _ ihFirst =>
      induction ih with
      | intro rest below ihRest =>
        refine ⟨_, fun ps' h => ?_⟩
        cases h with
        | head goesOn => exact ihFirst _ goesOn _ ⟨_, below⟩
        | tail goesOn => exact ihRest _ goesOn

theorem oneFollows_set {tasks : List (Task α)} {i : Nat} {id : String} {c : Call}
    {next : c.Answer → Proc α} (turn : tasks[i]? = some ⟨id, .call c next⟩) (a : c.Answer) :
    OneFollows ((tasks.set i ⟨id, next a⟩).map (·.rest)) (tasks.map (·.rest)) := by
  induction tasks generalizing i with
  | nil => cases turn
  | cons task rest ih =>
    cases i with
    | zero =>
      cases turn
      exact .head (.answered a)
    | succ i => exact .tail (ih turn)

/-- However the calls are interleaved, they come to an end. -/
theorem acc_step (answer : Answerer σ) (pool : Pool σ α) :
    Acc (fun after before => Step answer before after) pool := by
  refine Subrelation.accessible ?_ (InvImage.accessible (fun pool => pool.tasks.map (·.rest))
    (acc_oneFollows _))
  intro after before step
  cases step with
  | call turn => exact oneFollows_set turn _

end Pool
end Automation
