import Automation.Proofs.Interleaving

/-!
Runs at the same time leave each other alone. What a run sees of the stores and the network is its own
record, workflows that nobody changes, and replies that depend on the request only; so however the calls
of several runs are interleaved, each run yields, stores, logs and sends what it does when it is run
alone, but for the time.
-/
namespace Automation

open Proc

/-- The record without the times. -/
def Execution.untimed (e : Execution) : Execution := { e with startedAt := none, endedAt := none }

/-- The deed without the times. -/
def Deed.untimed : Deed → Deed
  | .save e => .save e.untimed
  | d => d

/-- What some exchanges leave behind, without the times. -/
def left (exchanges : List Exchange) : List Deed := (deeds exchanges).map (·.untimed)

theorem left_append (a b : List Exchange) : left (a ++ b) = left a ++ left b := by
  simp only [left, deeds_append, List.map_append]

theorem left_cons (x : Exchange) (t : List Exchange) :
    left (x :: t) = (x.deed?.map (·.untimed)).toList ++ left t := by
  cases h : x.deed? <;> simp [left, deeds, h]

/-- How a call about an execution may be answered where nobody else changes its record: the stores answer
every call, and replies depend on the request only. -/
def Private (workflow : String → Option Workflow) (reply : Http.Request → Except Failure Http.Response)
    (record : Option Execution) (x : Exchange) (after : Option Execution) : Prop :=
  match x with
  | ⟨.loadExecution _, answer⟩ => answer = .ok record ∧ after = record
  | ⟨.saveExecution e, answer⟩ => answer = .ok () ∧ after = some e
  | ⟨.loadWorkflow id, answer⟩ => answer = .ok (workflow id) ∧ after = record
  | ⟨.send request, answer⟩ => answer = reply request ∧ after = record
  | _ => after = record

/-- The procedure may end so: with the result, after the exchanges, with the record as it is then. -/
inductive Proc.Ends {ρ α : Type} (allows : ρ → Exchange → ρ → Prop) :
    Proc α → ρ → α → List Exchange → ρ → Prop
  | done (a : α) (r : ρ) : Ends allows (.done a) r a [] r
  | call {c : Call} {next : c.Answer → Proc α} {a : c.Answer} {b : α} {r r' r'' : ρ} {t : List Exchange}
      (answer : allows r ⟨c, a⟩ r') (rest : Ends allows (next a) r' b t r'') :
      Ends allows (.call c next) r b (⟨c, a⟩ :: t) r''

namespace Proc

variable {ρ α β : Type} {allows : ρ → Exchange → ρ → Prop} {r s : ρ}

theorem ends_done {a b : α} {t : List Exchange} (h : (Proc.done a).Ends allows r b t s) :
    b = a ∧ t = [] ∧ s = r := by
  cases h
  exact ⟨rfl, rfl, rfl⟩

theorem ends_call {c : Call} {next : c.Answer → Proc α} {b : α} {t : List Exchange}
    (h : (Proc.call c next).Ends allows r b t s) :
    ∃ a r' t', allows r ⟨c, a⟩ r' ∧ t = ⟨c, a⟩ :: t' ∧ (next a).Ends allows r' b t' s := by
  cases h with
  | call answer rest => exact ⟨_, _, _, answer, rfl, rest⟩

theorem ends_bind {p : Proc α} {f : α → Proc β} {b : β} {t : List Exchange}
    (h : (p.bind f).Ends allows r b t s) :
    ∃ a t₁ r₁ t₂, p.Ends allows r a t₁ r₁ ∧ (f a).Ends allows r₁ b t₂ s ∧ t = t₁ ++ t₂ := by
  induction p generalizing r t with
  | done a => exact ⟨a, [], r, t, .done a r, h, rfl⟩
  | call c next ih =>
    obtain ⟨a, r', t', answer, rfl, rest⟩ := ends_call h
    obtain ⟨a', t₁, r₁, t₂, first, second, rfl⟩ := ih a rest
    exact ⟨a', ⟨c, a⟩ :: t₁, r₁, t₂, .call answer first, second, rfl⟩

end Proc

section

variable {α β : Type} {workflow : String → Option Workflow}
  {reply : Http.Request → Except Failure Http.Response} {r r' : Option Execution}

/-- The calls that are no deeds, and whose answers tell nothing, or only the time. -/
def Call.Unseen : Call → Prop
  | .readClock | .write _ | .enterContext _ | .leaveContext => True
  | _ => False

/-- A procedure of calls that nobody sees leaves nothing behind, and the record as it is. -/
theorem ends_unseen {p : Proc α} (h : p.Only Call.Unseen) {a : α} {t : List Exchange}
    {s : Option Execution} (ends : p.Ends (Private workflow reply) r a t s) : s = r ∧ left t = [] := by
  induction ends with
  | done a r => exact ⟨rfl, rfl⟩
  | @call c next a b r r' r'' t answer rest ih =>
    obtain ⟨rfl, nothing⟩ := ih (h.2 a)
    rw [left_cons, nothing]
    cases c <;> first | exact h.1.elim | exact ⟨answer, rfl⟩

/-- What is said of two results and the records after them. -/
abbrev Both (α : Type) := α → Option Execution → α → Option Execution → Prop

/-- The same result, and the records as they were. -/
def SameResult (r r' : Option Execution) : Both α := fun a s a' s' => a = a' ∧ s = r ∧ s' = r'

/-- However two procedures end, they leave the same behind, and what is said of both ends holds. -/
def Alike (workflow : String → Option Workflow) (reply : Http.Request → Except Failure Http.Response)
    (p p' : Proc α) (r r' : Option Execution) (post : Both α) : Prop :=
  ∀ a t s a' t' s', p.Ends (Private workflow reply) r a t s → p'.Ends (Private workflow reply) r' a' t' s' →
    post a s a' s' ∧ left t = left t'

namespace Alike

variable {post : Both β}

theorem done {b b' : β} (h : post b r b' r') : Alike workflow reply (.done b) (.done b') r r' post := by
  intro a t s a' t' s' ends ends'
  obtain ⟨rfl, rfl, rfl⟩ := ends_done ends
  obtain ⟨rfl, rfl, rfl⟩ := ends_done ends'
  exact ⟨h, rfl⟩

theorem mono {p p' : Proc β} {post' : Both β} (h : Alike workflow reply p p' r r' post)
    (implies : ∀ a s a' s', post a s a' s' → post' a s a' s') : Alike workflow reply p p' r r' post' := by
  intro a t s a' t' s' ends ends'
  obtain ⟨holds, same⟩ := h _ _ _ _ _ _ ends ends'
  exact ⟨implies _ _ _ _ holds, same⟩

theorem bind {p p' : Proc α} {f f' : α → Proc β} {mid : Both α}
    (h : Alike workflow reply p p' r r' mid)
    (next : ∀ a s a' s', mid a s a' s' → Alike workflow reply (f a) (f' a') s s' post) :
    Alike workflow reply (p.bind f) (p'.bind f') r r' post := by
  intro b t s b' t' s' ends ends'
  obtain ⟨a, t₁, r₁, t₂, first, second, rfl⟩ := ends_bind ends
  obtain ⟨a', t₁', r₁', t₂', first', second', rfl⟩ := ends_bind ends'
  obtain ⟨holds, same⟩ := h _ _ _ _ _ _ first first'
  obtain ⟨holds', same'⟩ := next _ _ _ _ holds _ _ _ _ _ _ second second'
  exact ⟨holds', by rw [left_append, left_append, same, same']⟩

/-- Two calls with the same deed, if any, whatever they are answered. -/
theorem ask {c c' : Call} {f : c.Answer → Proc β} {f' : c'.Answer → Proc β}
    (same : ∀ a a', (Exchange.deed? ⟨c, a⟩).map (·.untimed) = (Exchange.deed? ⟨c', a'⟩).map (·.untimed))
    (next : ∀ a s a' s', Private workflow reply r ⟨c, a⟩ s → Private workflow reply r' ⟨c', a'⟩ s' →
      Alike workflow reply (f a) (f' a') s s' post) :
    Alike workflow reply ((Proc.ask c).bind f) ((Proc.ask c').bind f') r r' post := by
  intro b t s b' t' s' ends ends'
  obtain ⟨a, r₁, t₁, answer, rfl, rest⟩ := ends_call ends
  obtain ⟨a', r₁', t₁', answer', rfl, rest'⟩ := ends_call ends'
  obtain ⟨holds, same'⟩ := next a r₁ a' r₁' answer answer' _ _ _ _ _ _ rest rest'
  exact ⟨holds, by rw [left_cons, left_cons, same a a', same']⟩

/-- Procedures of calls that nobody sees. -/
theorem unseen {p p' : Proc α} (h : p.Only Call.Unseen) (h' : p'.Only Call.Unseen) :
    Alike workflow reply p p' r r' fun _ s _ s' => s = r ∧ s' = r' := by
  intro a t s a' t' s' ends ends'
  obtain ⟨same, nothing⟩ := ends_unseen h ends
  obtain ⟨same', nothing'⟩ := ends_unseen h' ends'
  exact ⟨⟨same, same'⟩, by rw [nothing, nothing']⟩

/-- What follows calls that nobody sees. -/
theorem after_unseen {c c' : Call} {f : c.Answer → Proc β} {f' : c'.Answer → Proc β} (h : c.Unseen)
    (h' : c'.Unseen) (next : ∀ a a', Alike workflow reply (f a) (f' a') r r' post) :
    Alike workflow reply ((Proc.ask c).bind f) ((Proc.ask c').bind f') r r' post := by
  refine ask (fun _ _ => by cases c <;> cases c' <;> first | exact h.elim | exact h'.elim | rfl) ?_
  intro a s a' s' answer answer'
  obtain rfl : s = r := by cases c <;> first | exact h.elim | exact answer
  obtain rfl : s' = r' := by cases c' <;> first | exact h'.elim | exact answer'
  exact next a a'

/-- A procedure of a node's calls is answered the same both times. -/
theorem self {p : Proc α} (h : p.Only Call.OfNode) :
    Alike workflow reply p p r r' (SameResult r r') := by
  induction p with
  | done a => exact done ⟨rfl, rfl, rfl⟩
  | call c next ih =>
    refine ask (fun _ _ => by cases c <;> rfl) fun a s a' s' answer answer' => ?_
    have same : a = a' ∧ s = r ∧ s' = r' := by
      cases c with
      | send request => exact ⟨answer.1.trans answer'.1.symm, answer.2, answer'.2⟩
      | write record => exact ⟨rfl, answer, answer'⟩
      | _ => exact h.1.elim
    obtain ⟨rfl, rfl, rfl⟩ := same
    exact ih a (h.2 a)

end Alike

/-- Whether the log takes an entry or not makes no difference to what follows. -/
theorem deliver_alike (entry : LogEntry) (node : String) :
    Alike workflow reply (deliver entry node) (deliver entry node) r r' (SameResult r r') := by
  refine .ask (fun _ _ => rfl) fun taken s taken' s' answer answer' => ?_
  obtain rfl : s = r := answer
  obtain rfl : s' = r' := answer'
  refine (Alike.unseen ?_ ?_).mono fun _ _ _ _ kept => ⟨rfl, kept⟩
  · cases taken <;> first | exact Only.done () | exact Only.ask trivial
  · cases taken' <;> first | exact Only.done () | exact Only.ask trivial

theorem visit_alike (run : RunContext) (outputs : Outputs) (node : Node) :
    Alike workflow reply (visit run outputs node) (visit run outputs node) r r' (SameResult r r') := by
  unfold visit
  split
  · exact .done ⟨rfl, rfl, rfl⟩
  · refine (Alike.self (carryOut_only _)).bind ?_
    rintro handled _ _ _ ⟨rfl, rfl, rfl⟩
    split
    · exact .after_unseen trivial trivial fun _ _ => .done ⟨rfl, rfl, rfl⟩
    · refine (Alike.self (writeOutcome_only (fun _ => trivial) _ _)).bind ?_
      rintro _ _ _ _ ⟨rfl, rfl, rfl⟩
      refine (deliver_alike _ _).bind ?_
      rintro _ _ _ _ ⟨rfl, rfl, rfl⟩
      exact .done ⟨rfl, rfl, rfl⟩

theorem walkStack_alike (run : RunContext) (w : Walk) (stack : List String) :
    Alike workflow reply (walkStack run w stack) (walkStack run w stack) r r' (SameResult r r') := by
  induction w, stack using walkStack.induct run with
  | case1 w =>
    rw [walkStack]
    exact .done ⟨rfl, rfl, rfl⟩
  | case2 w id rest seen ih =>
    rw [walkStack, dif_pos seen]
    exact ih
  | case3 w id rest new missing ih =>
    rw [walkStack, dif_neg new, missing]
    exact .after_unseen trivial trivial fun _ _ => ih
  | case4 w id rest new node found outgoing ih =>
    rw [walkStack, dif_neg new, found]
    refine (visit_alike run w.outputs node).bind ?_
    rintro visited _ _ _ ⟨rfl, rfl, rfl⟩
    split
    · exact .done ⟨rfl, rfl, rfl⟩
    · exact ih _ _

theorem walkFrom_alike {run run' : RunContext} (same : run = run') (w : Walk) (start : String) :
    Alike workflow reply (walkFrom run w start) (walkFrom run' w start) r r' (SameResult r r') := by
  rw [same]
  exact walkStack_alike run' w [start]

/-- Results and records that differ in nothing but the times. -/
def SameButTimes : Both (Except Failure Execution) := fun a s a' s' =>
  a.map (·.untimed) = a'.map (·.untimed) ∧ s.map (·.untimed) = s'.map (·.untimed)

variable {settings : EngineSettings} {e e' : Execution}

theorem finish_alike (same : e.untimed = e'.untimed) (status : Status) :
    Alike workflow reply (finish e status) (finish e' status) r r' SameButTimes := by
  refine .after_unseen trivial trivial fun now now' => ?_
  let ended : Execution := { e with status := status, endedAt := some now }
  let ended' : Execution := { e' with status := status, endedAt := some now' }
  have same' : ended.untimed = ended'.untimed := congrArg (fun e : Execution => { e with status := status }) same
  have sameDeed : some (Deed.save ended.untimed) = some (.save ended'.untimed) := by rw [same']
  refine .ask (fun _ _ => sameDeed) fun saved s saved' s' answer answer' => ?_
  obtain ⟨rfl, rfl⟩ := answer
  obtain ⟨rfl, rfl⟩ := answer'
  refine .after_unseen trivial trivial fun _ _ => .done ⟨?_, ?_⟩
  · exact congrArg Except.ok same'
  · exact congrArg some same'

theorem followWorkflow_alike (same : e.untimed = e'.untimed) (w : Workflow) :
    Alike workflow reply (followWorkflow settings e w) (followWorkflow settings e' w) (some e) (some e')
      SameButTimes := by
  have sameId : e.id = e'.id := congrArg (·.id) same
  unfold followWorkflow
  cases triggered : (Graph.ofWorkflow w).trigger? with
  | none =>
    simp only [triggered]
    exact .after_unseen trivial trivial fun _ _ => finish_alike same .failed
  | some trigger =>
    simp only [triggered]
    refine .after_unseen trivial trivial fun _ _ => ?_
    refine (walkFrom_alike (by rw [sameId]) _ _).bind ?_
    rintro ⟨failure, walk⟩ _ _ _ ⟨rfl, rfl, rfl⟩
    cases failure with
    | some failure => exact .done ⟨rfl, congrArg some same⟩
    | none =>
      refine .after_unseen trivial trivial fun _ _ => finish_alike ?_ .completed
      split
      · exact congrArg (fun e : Execution => { e with outputs := some walk.outputs }) same
      · exact same

theorem carryOutExecution_alike (settings : EngineSettings) (e : Execution) :
    Alike workflow reply (carryOutExecution settings e) (carryOutExecution settings e) r r'
      SameButTimes := by
  refine .after_unseen trivial trivial fun began began' => ?_
  let begun : Execution := { e with status := .running, startedAt := some began }
  let begun' : Execution := { e with status := .running, startedAt := some began' }
  have same : begun.untimed = begun'.untimed := rfl
  refine .ask (fun _ _ => rfl) fun saved s saved' s' answer answer' => ?_
  obtain ⟨rfl, rfl⟩ := answer
  obtain ⟨rfl, rfl⟩ := answer'
  refine .ask (fun _ _ => rfl) fun loaded s loaded' s' answer answer' => ?_
  obtain ⟨rfl, rfl⟩ := answer
  obtain ⟨rfl, rfl⟩ := answer'
  cases found : workflow e.workflowId with
  | none => exact .after_unseen trivial trivial fun _ _ => finish_alike same .failed
  | some w => exact followWorkflow_alike same w

/-- Two runs on the same record. -/
theorem runExecution_alike (settings : EngineSettings) (id : String) (r : Option Execution) :
    Alike workflow reply (runExecution settings id) (runExecution settings id) r r
      fun a s a' s' => a.map (·.map (·.untimed)) = a'.map (·.map (·.untimed)) ∧
        s.map (·.untimed) = s'.map (·.untimed) := by
  refine .ask (fun _ _ => rfl) fun loaded s loaded' s' answer answer' => ?_
  obtain ⟨rfl, same⟩ := answer
  obtain ⟨rfl, same'⟩ := answer'
  rw [same, same']
  cases r with
  | none => exact .after_unseen trivial trivial fun _ _ => .done ⟨rfl, rfl⟩
  | some e =>
    refine .after_unseen trivial trivial fun _ _ => ?_
    refine (carryOutExecution_alike settings e).bind ?_
    rintro result s result' s' ⟨same, stored⟩
    refine .after_unseen trivial trivial fun _ _ => .done ⟨?_, stored⟩
    have moved : ∀ result : Except Failure Execution,
        (result.map some).map (·.map (·.untimed)) = (result.map (·.untimed)).map some := by
      intro result
      cases result <;> rfl
    rw [moved, moved, same]

end

/-- Stores that answer every call, and a network whose reply depends on the request only. -/
structure Serves {σ : Type} (answer : Answerer σ) (record : σ → String → Option Execution)
    (workflow : String → Option Workflow) (reply : Http.Request → Except Failure Http.Response) : Prop
    extends Steady answer record workflow where
  sends : ∀ request s, (answer (.send request) s).1 = reply request

section

variable {σ : Type} {answer : Answerer σ} {record : σ → String → Option Execution}
  {workflow : String → Option Workflow} {reply : Http.Request → Except Failure Http.Response}

/-- A call about an execution is answered as if nobody else was there. -/
theorem Serves.answers (serves : Serves answer record workflow reply) {id : String} {c : Call}
    (ofId : c.Of id) (s : σ) :
    Private workflow reply (record s id) ⟨c, (answer c s).1⟩ (record (answer c s).2 id) := by
  rcases c.reading_or_save with reading | ⟨e, rfl⟩
  · have same := congrFun (serves.reads c s reading) id
    cases c with
    | loadExecution asked =>
      obtain rfl : asked = id := ofId
      exact ⟨serves.loads asked s, same⟩
    | loadWorkflow asked => exact ⟨serves.workflows asked s, same⟩
    | send request => exact ⟨serves.sends request s, same⟩
    | saveExecution e => exact reading.elim
    | _ => exact same
  · obtain rfl : e.id = id := ofId
    refine ⟨serves.saves e s, ?_⟩
    rw [serves.save_eq, Function.update_self]

/-- A procedure that is run alone ends as it is run. -/
theorem ends_run (serves : Serves answer record workflow reply) {α : Type} {id : String} {p : Proc α}
    {s : σ} (own : p.Under (.own id) () fun _ _ => True) (keyed : Keyed (record s)) :
    p.Ends (Private workflow reply) (record s id) (p.run answer s).1 (p.trace answer s)
      (record (p.run answer s).2 id) := by
  induction p generalizing s with
  | done a => exact .done a _
  | call c next ih =>
    have rest : (next (answer c s).1).Under (.own id) () fun _ _ => True :=
      own.answered (serves.toRecords.own keyed c)
    exact .call (serves.answers own.1 s) (ih _ rest (serves.toRecords.keyed keyed c))

namespace Pool

/-- Runs that leave each other alone. What a run has left to do ends as the whole run does that is alone
from the beginning. -/
structure Isolated (record : σ → String → Option Execution) (workflow : String → Option Workflow)
    (reply : Http.Request → Except Failure Http.Response) {α : Type} (whole : String → Proc α)
    (ids : List String) (s : σ) (pool : Pool σ α) : Prop where
  confined : Confined record pool
  ids : pool.tasks.map (·.id) = ids
  made : ∀ (i : Nat) (task : Task α), pool.tasks[i]? = some task →
    ∀ x ∈ pool.exchanges i, x.call.Of task.id
  ends : ∀ (i : Nat) (task : Task α), pool.tasks[i]? = some task → ∀ a t after,
    task.rest.Ends (Private workflow reply) (record pool.world task.id) a t after →
    (whole task.id).Ends (Private workflow reply) (record s task.id) a (pool.exchanges i ++ t) after

variable {α : Type} {whole : String → Proc α} {ids : List String} {s : σ} {pool pool' : Pool σ α}

/-- The runs of some executions, before the first call. -/
def outset (whole : String → Proc α) (ids : List String) (s : σ) : Pool σ α where
  tasks := ids.map fun id => ⟨id, whole id⟩
  world := s

theorem Isolated.outset (own : ∀ id, (whole id).Under (.own id) () fun _ _ => True)
    (keyed : Keyed (record s)) :
    Isolated record workflow reply whole ids s (Pool.outset whole ids s) := by
  have tasks : ∀ (i : Nat) task, (Pool.outset whole ids s).tasks[i]? = some task →
      task.rest = whole task.id := by
    intro i task there
    rw [Pool.outset, List.getElem?_map] at there
    obtain ⟨id, -, rfl⟩ := Option.map_eq_some_iff.mp there
    rfl
  refine ⟨⟨keyed, ?_⟩, ?_, ?_, ?_⟩
  · intro i task there
    rw [tasks i task there]
    exact own task.id
  · rw [Pool.outset, List.map_map]
    exact List.map_id ids
  · intro i task there x made
    cases made
  · intro i task there a t after ends
    rw [tasks i task there] at ends
    exact ends

/-- A call of a run leaves all runs alone. -/
theorem Isolated.step (serves : Serves answer record workflow reply) (distinct : ids.Nodup)
    (h : Isolated record workflow reply whole ids s pool) (step : Step answer pool pool') :
    Isolated record workflow reply whole ids s pool' := by
  cases step with
  | @call i id c next turn =>
    have records := serves.toRecords
    have ofId : c.Of id := h.confined.admits turn
    refine ⟨h.confined.answered records turn, (ids_answered turn).trans h.ids, ?_, ?_⟩
    · intro j task there x made
      rcases tasks_answered there with ⟨rfl, rfl⟩ | ⟨ne, there⟩
      · rw [exchanges_answered_self] at made
        rcases List.mem_append.mp made with made | last
        · exact h.made j _ turn x made
        · obtain rfl := List.mem_singleton.mp last
          exact ofId
      · rw [exchanges_answered_other ne] at made
        exact h.made j task there x made
    · intro j task there a t after ends
      rcases tasks_answered there with ⟨rfl, rfl⟩ | ⟨ne, there⟩
      · rw [exchanges_answered_self, List.append_assoc]
        exact h.ends j _ turn _ _ _ (.call (serves.answers ofId pool.world) ends)
      · have other : task.id ≠ id := by
          intro same
          have at_j : ids[j]? = some id := by rw [← h.ids, List.getElem?_map, there, ← same]; rfl
          have at_i : ids[i]? = some id := by rw [← h.ids, List.getElem?_map, turn]; rfl
          have inside := (List.getElem?_eq_some_iff.mp at_j).1
          exact ne ((List.getElem?_inj inside distinct).mp (at_j.trans at_i.symm))
        rw [h.confined.record_other records turn other] at ends
        rw [exchanges_answered_other ne]
        exact h.ends j task there a t after ends

theorem Isolated.steps (serves : Serves answer record workflow reply) (distinct : ids.Nodup)
    (h : Isolated record workflow reply whole ids s pool) (steps : Steps answer pool pool') :
    Isolated record workflow reply whole ids s pool' :=
  Loop.kept_of_steps (fun h step => h.step serves distinct step) h steps

/-- What the log was given by a run is about its execution. -/
theorem Isolated.logged (h : Isolated record workflow reply whole ids s pool) {i : Nat} {task : Task α}
    (there : pool.tasks[i]? = some task) {entry : LogEntry}
    (given : Deed.log entry ∈ deeds (pool.exchanges i)) : entry.executionId = task.id := by
  obtain ⟨⟨c, a⟩, made, did⟩ := List.mem_filterMap.mp given
  have ofId : c.Of task.id := h.made i task there _ made
  cases c with
  | appendLog given =>
    cases did
    exact ofId
  | _ => cases did

/-- A run that is finished has ended as the whole run does. -/
theorem Isolated.ended (h : Isolated record workflow reply whole ids s pool) {i : Nat} {task : Task α}
    (there : pool.tasks[i]? = some task) {a : α} (finished : task.rest = .done a) :
    (whole task.id).Ends (Private workflow reply) (record s task.id) a (pool.exchanges i)
      (record pool.world task.id) := by
  have ends := h.ends i task there a [] (record pool.world task.id)
  rw [finished, List.append_nil] at ends
  exact ends (.done a _)

/-- A run is finished, or goes on by a call. -/
theorem finished_or_step (answer : Answerer σ) {i : Nat} {task : Task α}
    (there : pool.tasks[i]? = some task) : task.Finished ∨ ∃ pool', Step answer pool pool' := by
  obtain ⟨id, rest⟩ := task
  cases rest with
  | done a => exact .inl ⟨a, rfl⟩
  | call c next => exact .inr ⟨_, .call there⟩

end Pool

end

/-- Runs of different executions at the same time, on stores that answer every call and a network whose
replies depend on the request only. However their calls are interleaved, they come to an end: there is
no endless interleaving, and as long as a run is not finished there is a call to make. A run that is
finished has yielded and stored what it does when it is run alone from the same stores, but for the
times, and has left the same behind, in the same order: what it saved, its log entries and its requests.
No log entry carries the id of another run. -/
theorem runs_leave_each_other_alone {σ : Type} {answer : Answerer σ}
    {record : σ → String → Option Execution} {workflow : String → Option Workflow}
    {reply : Http.Request → Except Failure Http.Response}
    (serves : Serves answer record workflow reply) (settings : EngineSettings) {ids : List String}
    (distinct : ids.Nodup) {s : σ} (keyed : Keyed (record s)) :
    let start := Pool.outset (runExecution settings) ids s
    Acc (fun after before => Pool.Step answer before after) start ∧
    ∀ pool, Pool.Steps answer start pool → pool.tasks.map (·.id) = ids ∧
      ∀ (i : Nat) task, pool.tasks[i]? = some task →
        (∀ entry, .log entry ∈ deeds (pool.exchanges i) → entry.executionId = task.id) ∧
        (task.Finished ∨ ∃ pool', Pool.Step answer pool pool') ∧
        ∀ result, task.rest = .done result →
          let alone := (runExecution settings task.id).run answer s
          result.map (·.map (·.untimed)) = alone.1.map (·.map (·.untimed)) ∧
          (record pool.world task.id).map (·.untimed) = (record alone.2 task.id).map (·.untimed) ∧
          (deeds (pool.exchanges i)).map (·.untimed) =
            (deeds ((runExecution settings task.id).trace answer s)).map (·.untimed) := by
  intro start
  refine ⟨Pool.acc_step answer start, ?_⟩
  intro pool steps
  have isolated := (Pool.Isolated.outset (runExecution_own settings) keyed).steps serves distinct steps
  refine ⟨isolated.ids, ?_⟩
  intro i task there
  refine ⟨fun entry => isolated.logged there, Pool.finished_or_step answer there, ?_⟩
  intro result finished
  have ends := isolated.ended there finished
  have alone := ends_run serves (runExecution_own settings task.id) keyed
  obtain ⟨⟨same, stored⟩, left⟩ := runExecution_alike settings task.id _ _ _ _ _ _ _ ends alone
  exact ⟨same, stored, left⟩

/-- The network of a rehearsal without scripted replies always replies the same. -/
theorem Rehearsal.serves {script : Script} (faultless : ∀ p, script.faults p = [])
    (unscripted : script.replies = []) (workflows : Fields Workflow) :
    Serves (staged script workflows) (fun r => record r.1) workflows.get? fun _ => plainReply where
  toSteady := steady faultless workflows
  sends := by
    rintro request ⟨r, staged⟩
    have reply : r.script.replies.getD r.sent plainReply = plainReply := by
      rw [staged.script, unscripted, List.getD_nil]
    exact reply

/-- Two runs with a request each, of which the second begins first, on a log that fails. -/
theorem runs_leave_each_other_alone_two :
    let workflow : Workflow :=
      { id := some "w"
        name := "W"
        nodes := [{ id := "t", type := "trigger" }, { id := "h", type := "http" }]
        edges := [⟨"t", "h", none⟩] }
    let script : Script := { appendFails := fun _ => true }
    let answer := Rehearsal.staged script [("w", workflow)]
    let executions := [{ id := "e", workflowId := "w" }, { id := "f", workflowId := "w" }]
    let s := ⟨Rehearsal.start script [workflow] executions default, ⟨rfl, rfl⟩⟩
    let start := Pool.outset (runExecution {}) ["e", "f"] s
    let alone := (runExecution {} "f").run answer s
    Serves answer (fun r => r.1.record) (Fields.get? [("w", workflow)]) (fun _ => plainReply) ∧
    ["e", "f"].Nodup ∧ Keyed s.1.record ∧ alone.1.toOption.join.map (·.status) = some .completed ∧
    ∃ pool result, Pool.Steps answer start pool ∧ pool.tasks[1]? = some ⟨"f", .done result⟩ ∧
      result.map (·.map (·.untimed)) = alone.1.map (·.map (·.untimed)) := by
  intro workflow script answer executions s start alone
  have serves : Serves answer (fun r => r.1.record) (Fields.get? [("w", workflow)]) fun _ => plainReply :=
    Rehearsal.serves (fun _ => rfl) rfl _
  have keyed : Keyed s.1.record := Rehearsal.keyed_start _ _ _ _
  have distinct : ["e", "f"].Nodup := by decide
  have begun : ∃ pool rest, Pool.Step answer start pool ∧
      pool.tasks = [⟨"e", runExecution {} "e"⟩, ⟨"f", rest⟩] := ⟨_, _, .call (i := 1) rfl, rfl⟩
  obtain ⟨pool, rest, begins, tasks⟩ := begun
  have first : pool.tasks[0]? = some ⟨"e", runExecution {} "e"⟩ := by
    rw [tasks]
    rfl
  have second : (pool.carriedOut answer 0 "e" (runExecution {} "e")).tasks[1]? = some ⟨"f", rest⟩ := by
    rw [Pool.carriedOut_other answer (by decide), tasks]
    rfl
  have both := (Pool.steps_carriedOut answer first).trans (Pool.steps_carriedOut answer second)
  have steps := Relation.ReflTransGen.head begins both
  have finished := Pool.carriedOut_self answer second
  have ended := (runs_leave_each_other_alone serves {} distinct keyed).2 _ steps
  have same := (ended.2 1 _ finished).2.2 _ rfl
  exact ⟨serves, distinct, keyed, by decide +kernel, _, _, steps, finished, same.1⟩

end Automation
