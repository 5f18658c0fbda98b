import Automation.Proofs.Lifecycle
import Automation.Proofs.Provenance
import Automation.Proofs.Stores

/-!
A run on steady stores comes to its end whatever happens inside its nodes, in the log and on the network.
It saves that it is running first and how it ended last, in between it does what its walk does, and it
changes no other record. Only a node whose settings cannot be substituted fails the run itself: the walk is
cut short there, and the record stays as it was at the beginning.
-/
namespace Automation

open Proc

theorem Call.Idle.reading {c : Call} (h : c.Idle) : c.Reading := by
  cases c <;> first | exact h | trivial

/-- A walk saves nothing. -/
theorem Call.OfWalk.saves_nothing {c : Call} {id : String} (h : c.OfWalk id) (a : c.Answer)
    (e : Execution) : Exchange.deed? ⟨c, a⟩ ≠ some (.save e) := by
  cases c <;> first | exact h.elim | (intro hd; cases hd)

theorem walkFrom_saves_nothing {σ : Type} (answer : Answerer σ) (run : RunContext) (w : Walk)
    (start : String) (s : σ) (e : Execution) :
    Deed.save e ∉ deeds ((walkFrom run w start).trace answer s) := by
  intro saved
  obtain ⟨⟨c, a⟩, made, did⟩ := List.mem_filterMap.mp saved
  have ofWalk : c.OfWalk run.executionId := (walkStack_only run w [start]).of_mem_trace answer s made
  exact ofWalk.saves_nothing a e did

/-- What is said of the result of a procedure, its exchanges, and the records after it. -/
abbrev Post (α : Type) := α → List Exchange → (String → Option Execution) → Prop

section

variable {σ : Type} {answer : Answerer σ} {record : σ → String → Option Execution}
  {workflow : String → Option Workflow} {s : σ} {records : String → Option Execution}

/-- What is said holds after the procedure is run. -/
def Yields {α : Type} (answer : Answerer σ) (record : σ → String → Option Execution) (p : Proc α)
    (s : σ) (post : Post α) : Prop :=
  post (p.run answer s).1 (p.trace answer s) (record (p.run answer s).2)

namespace Yields

variable {α β : Type} {post : Post β}

theorem mono {p : Proc β} {post' : Post β} (h : Yields answer record p s post)
    (implies : ∀ b t after, post b t after → post' b t after) : Yields answer record p s post' :=
  implies _ _ _ h

theorem bind {p : Proc α} {f : α → Proc β} {post' : Post α} (h : Yields answer record p s post')
    (next : ∀ a s₁ t₁, post' a t₁ (record s₁) →
      Yields answer record (f a) s₁ fun b t after => post b (t₁ ++ t) after) :
    Yields answer record (p.bind f) s post := by
  have after := next _ _ _ h
  unfold Yields at after ⊢
  rw [trace_bind, run_bind]
  exact after

/-- What follows a procedure without deeds goes on from the same records. -/
theorem after_idle (stores : Records answer record) {p : Proc α} {f : α → Proc β}
    (idle : p.Only Call.Idle) (same : record s = records)
    (next : ∀ s₁ t₁, record s₁ = records → deeds t₁ = [] →
      Yields answer record (f (p.run answer s).1) s₁ fun b t after => post b (t₁ ++ t) after) :
    Yields answer record (p.bind f) s post := by
  have kept : record (p.run answer s).2 = records := by
    rw [idle.run_eq answer record (fun c s h => stores.reads c s h.reading) s]
    exact same
  have nothing : deeds (p.trace answer s) = [] :=
    idle.filterMap_trace answer (fun _ a h => Exchange.deed?_idle h a) s
  have done : Yields answer record p s fun a t after =>
      a = (p.run answer s).1 ∧ deeds t = [] ∧ after = records := ⟨rfl, nothing, kept⟩
  refine done.bind fun a s₁ t₁ ⟨result, idle, same⟩ => ?_
  rw [result]
  exact next s₁ t₁ same idle

/-- What follows a save goes on from the records with the saved one. -/
theorem after_save {f : Except Failure Unit → Proc β} (steady : Steady answer record workflow)
    (e : Execution) (same : record s = records)
    (next : ∀ s₁ t₁, record s₁ = Function.update records e.id (some e) → deeds t₁ = [.save e] →
      Yields answer record (f (.ok ())) s₁ fun b t after => post b (t₁ ++ t) after) :
    Yields answer record ((ask (.saveExecution e)).bind f) s post := by
  have stored := steady.save_eq e s
  rw [same] at stored
  have after := next _ [⟨.saveExecution e, (answer (.saveExecution e) s).1⟩] stored rfl
  rw [← steady.saves e s] at after
  exact after

theorem after_loadExecution {f : Except Failure (Option Execution) → Proc β}
    (steady : Steady answer record workflow) (id : String) (same : record s = records)
    (next : ∀ s₁ t₁, record s₁ = records → deeds t₁ = [] →
      Yields answer record (f (.ok (records id))) s₁ fun b t after => post b (t₁ ++ t) after) :
    Yields answer record ((ask (.loadExecution id)).bind f) s post := by
  have loaded : (answer (.loadExecution id) s).1 = .ok (record s id) := steady.loads id s
  rw [same] at loaded
  rw [← loaded] at next
  exact after_idle steady.toRecords (Only.ask trivial) same next

theorem after_loadWorkflow {f : Except Failure (Option Workflow) → Proc β}
    (steady : Steady answer record workflow) (id : String) (same : record s = records)
    (next : ∀ s₁ t₁, record s₁ = records → deeds t₁ = [] →
      Yields answer record (f (.ok (workflow id))) s₁ fun b t after => post b (t₁ ++ t) after) :
    Yields answer record ((ask (.loadWorkflow id)).bind f) s post := by
  rw [← steady.workflows id s] at next
  exact after_idle steady.toRecords (Only.ask trivial) same next

/-- What follows a walk goes on with what was walked, from the same records. -/
theorem after_walk {f : Option Failure × Walk → Proc β} (stores : Records answer record)
    (run : RunContext) (start : String) (same : record s = records)
    (next : ∀ cut walk s₂, (walkFrom run {} start).run answer s = ((cut, walk), s₂) →
      record s₂ = records → Yields answer record (f (cut, walk)) s₂ fun b t after =>
        post b ((walkFrom run {} start).trace answer s ++ t) after) :
    Yields answer record ((walkFrom run {} start).bind f) s post := by
  have reading : (walkFrom run {} start).Only Call.Reading :=
    (walkStack_only run {} [start]).mono fun _ h => h.reading
  have kept : record ((walkFrom run {} start).run answer s).2 = records :=
    (reading.run_eq answer record stores.reads s).trans same
  have after := next _ _ _ rfl kept
  unfold Yields at after ⊢
  rw [trace_bind, run_bind]
  exact after

end Yields

/-- How a run ends: with a status and the outputs that its record has then, or by the failure that cut its
walk short. -/
abbrev Conclusion := Except Failure (Status × Option (Fields Value))

/-- How an execution is concluded. Its end is stored in place of the record that there was, or nothing is
stored and the failure is passed on. -/
inductive Concluded (e : Execution) (records : String → Option Execution) :
    Conclusion → Post (Except Failure Execution)
  | ended {status outputs closing} {stopped : Instant}
      (stored : deeds closing =
        [.save { e with status := status, outputs := outputs, endedAt := some stopped }]) :
      Concluded e records (.ok (status, outputs))
        (.ok { e with status := status, outputs := outputs, endedAt := some stopped }) closing
        (Function.update records e.id
          (some { e with status := status, outputs := outputs, endedAt := some stopped }))
  | cut {failure closing} (nothing : deeds closing = []) :
      Concluded e records (.error failure) (.error failure) closing records

theorem Concluded.of_kept {e : Execution} {status : Status} {outputs : Option (Fields Value)}
    {result : Except Failure Execution} {t : List Exchange} {after : String → Option Execution}
    (h : Concluded { e with outputs := outputs } records (.ok (status, outputs)) result t after) :
    Concluded e records (.ok (status, outputs)) result t after := by
  cases h with
  | ended stored => exact .ended stored

theorem Concluded.cons {e : Execution} {conclusion : Conclusion} {result : Except Failure Execution}
    {t t₁ : List Exchange} {after : String → Option Execution} (idle : deeds t₁ = [])
    (h : Concluded e records conclusion result t after) :
    Concluded e records conclusion result (t₁ ++ t) after := by
  cases h with
  | ended stored => exact .ended (by rw [deeds_append, idle, stored, List.nil_append])
  | cut nothing => exact .cut (by rw [deeds_append, idle, nothing, List.nil_append])

theorem Concluded.concat {e : Execution} {conclusion : Conclusion} {result : Except Failure Execution}
    {t t₂ : List Exchange} {after : String → Option Execution}
    (h : Concluded e records conclusion result t after) (idle : deeds t₂ = []) :
    Concluded e records conclusion result (t ++ t₂) after := by
  cases h with
  | ended stored => exact .ended (by rw [deeds_append, idle, stored, List.append_nil])
  | cut nothing => exact .cut (by rw [deeds_append, idle, nothing, List.append_nil])

/-- The end of a run is stored. -/
theorem finish_yields (steady : Steady answer record workflow) (e : Execution) (status : Status)
    (same : record s = records) :
    Yields answer record (finish e status) s (Concluded e records (.ok (status, e.outputs))) := by
  refine .after_idle steady.toRecords (Only.ask trivial) same fun s₁ t₁ same₁ idle₁ => ?_
  refine .after_save steady _ same₁ fun s₂ t₂ same₂ saved => ?_
  refine .after_idle steady.toRecords (Only.ask trivial) same₂ fun s₃ t₃ same₃ idle₃ => ?_
  change Concluded e records _ (.ok _) _ (record s₃)
  rw [same₃]
  refine .ended ?_
  simp only [deeds_append, idle₁, saved, idle₃]
  rfl

/-- What lies between the beginning of a run and its end: the exchanges, and how the run ends after them. A
workflow with a trigger is walked, to the end or until it comes to a node whose settings cannot be
substituted; without a trigger, or without a workflow, nothing is done and the run has failed. -/
inductive Passage (answer : Answerer σ) (workflow : String → Option Workflow)
    (settings : EngineSettings) (e : Execution) : List Exchange → Conclusion → Prop
  | walked {w trigger s₁ s₂ walk} (found : workflow e.workflowId = some w)
      (triggered : (Graph.ofWorkflow w).trigger? = some trigger)
      (walked : (walkFrom ⟨e.id, .ofWorkflow w, settings.online⟩ {} trigger.id).run answer s₁ =
        ((none, walk), s₂)) :
      Passage answer workflow settings e
        ((walkFrom ⟨e.id, .ofWorkflow w, settings.online⟩ {} trigger.id).trace answer s₁)
        (.ok (.completed, if settings.keepOutputs then some walk.outputs else e.outputs))
  | cut {w trigger s₁ s₂ failure walk} (found : workflow e.workflowId = some w)
      (triggered : (Graph.ofWorkflow w).trigger? = some trigger)
      (walked : (walkFrom ⟨e.id, .ofWorkflow w, settings.online⟩ {} trigger.id).run answer s₁ =
        ((some failure, walk), s₂))
      (unfilled : ∃ node ∈ w.nodes, ∃ outputs : Outputs,
        outputs.resolveFields Stack.setting node.settings = .error failure) :
      Passage answer workflow settings e
        ((walkFrom ⟨e.id, .ofWorkflow w, settings.online⟩ {} trigger.id).trace answer s₁) (.error failure)
  | nowhere (untriggered : ∀ w, workflow e.workflowId = some w → (Graph.ofWorkflow w).trigger? = none) :
      Passage answer workflow settings e [] (.ok (.failed, e.outputs))

section

variable {settings : EngineSettings} {e : Execution} {middle : List Exchange} {conclusion : Conclusion}

/-- The passage does not depend on the status or the beginning that are recorded. -/
theorem Passage.of_begun {status : Status} {began : Option Instant}
    (h : Passage answer workflow settings { e with status := status, startedAt := began } middle conclusion) :
    Passage answer workflow settings e middle conclusion := by
  cases h with
  | walked found triggered walked => exact .walked found triggered walked
  | cut found triggered walked unfilled => exact .cut found triggered walked unfilled
  | nowhere untriggered => exact .nowhere untriggered

theorem Passage.saves_nothing (h : Passage answer workflow settings e middle conclusion) (e' : Execution) :
    Deed.save e' ∉ deeds middle := by
  cases h with
  | walked | cut => exact walkFrom_saves_nothing answer _ {} _ _ e'
  | nowhere => exact List.not_mem_nil

/-- No walk is cut short while the network answers with data that can be written. -/
theorem Passage.uncut (h : Passage answer workflow settings e middle conclusion)
    (network : NetworkWritable answer) : ∃ status outputs, conclusion = .ok (status, outputs) := by
  cases h with
  | walked | nowhere => exact ⟨_, _, rfl⟩
  | @cut w trigger s₁ s₂ failure walk found triggered walked unfilled =>
    obtain ⟨walk', s', uncut⟩ := walkFrom_uncut network ⟨e.id, .ofWorkflow w, settings.online⟩ (w := {})
      Outputs.canBeWritten_nil trigger.id s₁
    cases walked.symm.trans uncut

end

/-- The settings of the node that cuts a walk short cannot be substituted. -/
theorem unfilled_of_cut {run : RunContext} (hg : run.graph.Indexed) {start : String} {s' : σ}
    {failure : Failure} {walk : Walk} (walked : (walkFrom run {} start).run answer s = ((some failure, walk), s')) :
    ∃ node ∈ run.graph.nodes, ∃ outputs : Outputs,
      outputs.resolveFields Stack.setting node.settings = .error failure := by
  obtain ⟨l, steps, -, result, -⟩ := Loop.exists_steps_walkFrom answer run {} start s [] []
  have cut : l.failure = some failure := by
    rw [walked] at result
    exact (congrArg (·.1.1) result).symm
  obtain ⟨stop, last, unfilled⟩ := ((Loop.Substituted.start {} start s).steps steps).last failure cut
  have found := (steps.chronicle hg).found stop (List.mem_of_getLast? last)
  exact ⟨stop.node, hg.mem found, stop.outputs, unfilled⟩

/-- The rest of a run after its beginning was stored: a passage, between exchanges that leave nothing
behind and the conclusion. -/
def Rest (answer : Answerer σ) (workflow : String → Option Workflow) (settings : EngineSettings)
    (e : Execution) (records : String → Option Execution) : Post (Except Failure Execution) :=
  fun result t after => ∃ opening middle closing conclusion, t = opening ++ middle ++ closing ∧
    deeds opening = [] ∧ Passage answer workflow settings e middle conclusion ∧
    Concluded e records conclusion result closing after

/-- A run that finds nothing to begin with fails. -/
theorem fail_yields (steady : Steady answer record workflow) (settings : EngineSettings) (e : Execution)
    (note : String)
    (untriggered : ∀ w, workflow e.workflowId = some w → (Graph.ofWorkflow w).trigger? = none)
    (same : record s = records) :
    Yields answer record ((Proc.write .warning .engine note).bind fun _ => finish e .failed) s
      (Rest answer workflow settings e records) := by
  refine .after_idle steady.toRecords (Only.ask trivial) same fun s₁ t₁ same₁ idle => ?_
  refine (finish_yields steady e .failed same₁).mono fun result t after concluded => ?_
  exact ⟨t₁, [], t, _, by simp, idle, .nowhere untriggered, concluded⟩

/-- A workflow with a trigger is walked, and the run is completed, unless the walk is cut short. -/
theorem followWorkflow_yields (steady : Steady answer record workflow) (settings : EngineSettings)
    (e : Execution) {w : Workflow} (found : workflow e.workflowId = some w) (same : record s = records) :
    Yields answer record (followWorkflow settings e w) s (Rest answer workflow settings e records) := by
  unfold followWorkflow
  cases triggered : (Graph.ofWorkflow w).trigger? with
  | none =>
    simp only [triggered]
    refine fail_yields steady settings e _ ?_ same
    intro w' found'
    rw [found] at found'
    cases found'
    exact triggered
  | some trigger =>
    simp only [triggered]
    refine .after_idle steady.toRecords (Only.ask trivial) same fun s₁ t₁ same₁ idle₁ => ?_
    refine .after_walk steady.toRecords _ _ same₁ fun cut walk s₂ walked same₂ => ?_
    cases cut with
    | some failure =>
      have unfilled := unfilled_of_cut (Graph.indexed_build _ _) walked
      change Rest answer workflow settings e records (.error failure) (t₁ ++ (_ ++ [])) (record s₂)
      rw [same₂]
      exact ⟨t₁, _, [], _, (List.append_assoc ..).symm, idle₁, .cut found triggered walked unfilled, .cut rfl⟩
    | none =>
      refine .after_idle steady.toRecords (Only.ask trivial) same₂ fun s₃ t₃ same₃ idle₃ => ?_
      refine (finish_yields steady _ .completed same₃).mono fun result t after concluded => ?_
      refine ⟨t₁, _, t₃ ++ t, _, by rw [List.append_assoc], idle₁, .walked found triggered walked, ?_⟩
      refine Concluded.cons idle₃ (.of_kept ?_)
      cases kept : settings.keepOutputs <;> simpa [kept] using concluded

/-- What a run on an execution comes to: it saves that the execution is running, passes through the walk of
its workflow, if there is one, and is concluded. -/
def Course (answer : Answerer σ) (workflow : String → Option Workflow) (settings : EngineSettings)
    (e : Execution) (records : String → Option Execution) : Post (Except Failure Execution) :=
  fun result t after => ∃ opening middle closing conclusion, ∃ began : Instant,
    let begun := { e with status := .running, startedAt := some began }
    t = opening ++ middle ++ closing ∧ deeds opening = [.save begun] ∧
    Passage answer workflow settings e middle conclusion ∧
    Concluded begun (Function.update records e.id (some begun)) conclusion result closing after

/-- The course of a run is its beginning and the rest. -/
theorem Rest.course {settings : EngineSettings} {e : Execution} {began : Instant}
    {result : Except Failure Execution} {t t₁ : List Exchange} {after : String → Option Execution}
    (stored : deeds t₁ = [.save { e with status := .running, startedAt := some began }])
    (h : Rest answer workflow settings { e with status := .running, startedAt := some began }
      (Function.update records e.id (some { e with status := .running, startedAt := some began }))
      result t after) :
    Course answer workflow settings e records result (t₁ ++ t) after := by
  obtain ⟨opening, middle, closing, conclusion, rfl, nothing, passage, concluded⟩ := h
  refine ⟨t₁ ++ opening, middle, closing, conclusion, began, ?_, ?_, passage.of_begun, concluded⟩
  · simp only [List.append_assoc]
  · rw [deeds_append, stored, nothing, List.append_nil]

/-- A run on a loaded execution. -/
theorem carryOutExecution_yields (steady : Steady answer record workflow) (settings : EngineSettings)
    (e : Execution) (same : record s = records) :
    Yields answer record (carryOutExecution settings e) s (Course answer workflow settings e records) := by
  refine .after_idle steady.toRecords (Only.ask trivial) same fun s₁ t₁ same₁ idle₁ => ?_
  generalize ((ask .readClock).run answer s).1 = began
  let begun : Execution := { e with status := .running, startedAt := some began }
  refine .after_save steady begun same₁ fun s₂ t₂ same₂ saved => ?_
  refine .after_loadWorkflow steady e.workflowId same₂ fun s₃ t₃ same₃ idle₃ => ?_
  have stored : deeds (t₁ ++ (t₂ ++ t₃)) = [.save begun] := by
    rw [deeds_append, deeds_append, idle₁, saved, idle₃]
    rfl
  let rest := Rest answer workflow settings begun (Function.update records e.id (some begun))
  refine (?_ : Yields answer record _ s₃ rest).mono fun result t after h => ?_
  · cases found : workflow e.workflowId with
    | none =>
      refine fail_yields steady settings begun _ ?_ same₃
      intro w found'
      rw [found] at found'
      cases found'
    | some w => exact followWorkflow_yields steady settings begun found same₃
  · rw [← List.append_assoc t₂, ← List.append_assoc t₁]
    exact h.course stored

theorem Course.around {settings : EngineSettings} {e : Execution} {result : Except Failure Execution}
    {t t₁ t₂ : List Exchange} {after : String → Option Execution}
    (h : Course answer workflow settings e records result t after) (idle₁ : deeds t₁ = [])
    (idle₂ : deeds t₂ = []) : Course answer workflow settings e records result (t₁ ++ (t ++ t₂)) after := by
  obtain ⟨opening, middle, closing, conclusion, began, rfl, opened, passage, concluded⟩ := h
  refine ⟨t₁ ++ opening, middle, closing ++ t₂, conclusion, began, ?_, ?_, passage, concluded.concat idle₂⟩
  · simp only [List.append_assoc]
  · rw [deeds_append, idle₁, opened, List.nil_append]

/-- Without a record, a run does nothing. -/
theorem runExecution_yields_none (steady : Steady answer record workflow) (settings : EngineSettings)
    (id : String) (same : record s = records) (missing : records id = none) :
    Yields answer record (runExecution settings id) s fun result t after =>
      result = .ok none ∧ deeds t = [] ∧ after = records := by
  refine .after_loadExecution steady id same fun s₁ t₁ same₁ idle₁ => ?_
  rw [missing]
  refine .after_idle steady.toRecords (Only.ask trivial) same₁ fun s₂ t₂ same₂ idle₂ => ?_
  refine ⟨rfl, ?_, same₂⟩
  rw [deeds_append, deeds_append, idle₁, idle₂]
  rfl

theorem runExecution_yields_some (steady : Steady answer record workflow) (settings : EngineSettings)
    (id : String) (same : record s = records) {e : Execution} (found : records id = some e) :
    Yields answer record (runExecution settings id) s fun result t after =>
      ∃ ended, result = ended.map some ∧ Course answer workflow settings e records ended t after := by
  refine .after_loadExecution steady id same fun s₁ t₁ same₁ idle₁ => ?_
  rw [found]
  refine .after_idle steady.toRecords (Only.ask trivial) same₁ fun s₂ t₂ same₂ idle₂ => ?_
  refine (carryOutExecution_yields steady settings e same₂).bind fun result s₃ t₃ course => ?_
  refine .after_idle steady.toRecords (Only.ask trivial) rfl fun s₄ t₄ same₄ idle₄ => ?_
  have idle : deeds (t₁ ++ t₂) = [] := by rw [deeds_append, idle₁, idle₂, List.append_nil]
  have around := course.around idle idle₄
  rw [← same₄, List.append_assoc] at around
  rw [← List.append_nil t₄] at around
  exact ⟨result, rfl, around⟩

/-- What a run on stores that answer every call comes to, whatever happens in the nodes, in the log and on the
network. Without a record it leaves nothing behind. Otherwise it saves first that the execution is running.
Then it does what the walk of the workflow does, which saves nothing, or nothing at all if there is no
workflow or no trigger. It saves last that it is completed after its walk, or that it has failed without one,
and yields the record as it is stored. Of this, only the status, the two times and the outputs differ from the
record that was loaded, the outputs only if they are kept and the run is completed: they are those of the walk
then. No other record changes. The exception is a walk that comes to a node whose settings cannot be
substituted: the run fails with that failure, and the record stays as it was when the run began. There is no
such walk as long as the network answers with data that can be written. -/
theorem runExecution_concludes {record : σ → String → Option Execution}
    (steady : Steady answer record workflow) (settings : EngineSettings) (id : String) (s : σ) :
    let run := (runExecution settings id).run answer s
    let exchanges := (runExecution settings id).trace answer s
    (record s id = none → run.1 = .ok none ∧ deeds exchanges = [] ∧ record run.2 = record s) ∧
    ∀ e, record s id = some e → ∃ opening middle closing conclusion, ∃ began : Instant,
      let begun := { e with status := .running, startedAt := some began }
      exchanges = opening ++ middle ++ closing ∧ deeds opening = [.save begun] ∧
      (∀ e', .save e' ∉ deeds middle) ∧ Passage answer workflow settings e middle conclusion ∧
      (∀ status outputs, conclusion = .ok (status, outputs) → ∃ stopped : Instant,
        let ended := { begun with status := status, outputs := outputs, endedAt := some stopped }
        deeds closing = [.save ended] ∧ run.1 = .ok (some ended) ∧
          record run.2 = Function.update (record s) e.id (some ended)) ∧
      (∀ failure, conclusion = .error failure → deeds closing = [] ∧ run.1 = .error failure ∧
        record run.2 = Function.update (record s) e.id (some begun)) ∧
      (NetworkWritable answer → ∃ status outputs, conclusion = .ok (status, outputs)) := by
  refine ⟨fun missing => runExecution_yields_none steady settings id rfl missing, ?_⟩
  intro e found
  have course : Yields answer record _ s _ := runExecution_yields_some steady settings id rfl found
  obtain ⟨result, is, opening, middle, closing, conclusion, began, split, opened, passage, concluded⟩ := course
  refine ⟨opening, middle, closing, conclusion, began, split, opened, passage.saves_nothing, passage, ?_, ?_,
    passage.uncut⟩
  · rintro status outputs rfl
    generalize after : record ((runExecution settings id).run answer s).2 = records' at concluded
    cases concluded with
    | ended stored => exact ⟨_, stored, is, Function.update_idem ..⟩
  · rintro failure rfl
    generalize after : record ((runExecution settings id).run answer s).2 = records' at concluded
    cases concluded with
    | cut nothing => exact ⟨nothing, is, rfl⟩

end

theorem plainReply_canBeWritten {response : Http.Response} (h : plainReply = .ok response) :
    response.CanBeWritten := by
  cases h
  refine ⟨?_, ?_, ?_⟩ <;> exact ⟨by decide +kernel, by decide⟩

/-- The network of a rehearsal answers with data that can be written if its script does. -/
theorem Rehearsal.networkWritable {script : Script} (workflows : Fields Workflow)
    (replies : ∀ response, .ok response ∈ script.replies → response.CanBeWritten) :
    NetworkWritable (staged script workflows) := by
  rintro request ⟨r, staged⟩ response answered
  have reply : r.script.replies.getD r.sent plainReply = .ok response := answered
  rw [staged.script, List.getD_eq_getElem?_getD] at reply
  cases scripted : script.replies[r.sent]? with
  | none =>
    rw [scripted] at reply
    exact plainReply_canBeWritten reply
  | some given =>
    rw [scripted] at reply
    rw [Option.getD_some] at reply
    rw [reply] at scripted
    exact replies response (List.mem_of_getElem? scripted)

/-- A log that cannot be reached and a request that fails: the run is completed all the same. -/
theorem runExecution_concludes_unreachable :
    let workflow : Workflow :=
      { id := some "w"
        name := "W"
        nodes := [{ id := "t", type := "trigger" }, { id := "h", type := "http" }]
        edges := [⟨"t", "h", none⟩] }
    let script : Script :=
      { replies := [.error (.reported "ConnectionError" "unreachable")], appendFails := fun _ => true }
    let e : Execution := { id := "e", workflowId := "w" }
    let answer := Rehearsal.staged script [("w", workflow)]
    let s := ⟨Rehearsal.start script [workflow] [e] default, ⟨rfl, rfl⟩⟩
    Steady answer (fun r => r.1.record) (Fields.get? [("w", workflow)]) ∧ NetworkWritable answer ∧
    ∃ ended : Execution, ((runExecution {} "e").run answer s).1 = .ok (some ended) ∧
      ended.status = .completed ∧
      ((runExecution {} "e").run answer s).2.1.record = Function.update s.1.record "e" (some ended) := by
  intro workflow script e answer s
  have steady : Steady answer (fun r => r.1.record) (Fields.get? [("w", workflow)]) :=
    Rehearsal.steady (fun _ => rfl) _
  have network : NetworkWritable answer := Rehearsal.networkWritable _ fun _ h => by simp [script] at h
  refine ⟨steady, network, ?_⟩
  obtain ⟨opening, middle, closing, conclusion, began, -, -, -, passage, concluded, -, uncut⟩ :=
    (runExecution_concludes steady {} "e" s).2 e rfl
  obtain ⟨status, outputs, rfl⟩ := uncut network
  obtain ⟨stopped, -, result, after⟩ := concluded status outputs rfl
  refine ⟨_, result, ?_, after⟩
  cases passage with
  | walked => rfl
  | nowhere untriggered =>
    have trigger := untriggered workflow rfl
    have triggered : (Graph.ofWorkflow workflow).trigger?.isSome = true := by decide
    rw [trigger] at triggered
    cases triggered

/-- Steady stores and a reply that is read and is nested too deep to be written: the run fails, and the record
says that it is running. -/
theorem run_fails_on_deep_reply :
    let workflow : Workflow :=
      { id := some "w"
        name := "W"
        nodes := [{ id := "t", type := "trigger" }, { id := "h", type := "http" },
          { id := "m", type := "email"
            settings := [("recipient", .str "\x7b\x7bcontext.outputs.h.response\x7d\x7d")] }]
        edges := [⟨"t", "h", none⟩, ⟨"h", "m", none⟩] }
    let script : Script := { replies := [Http.decodeResponse Http.deepReply] }
    let answer := Rehearsal.staged script [("w", workflow)]
    let s := ⟨Rehearsal.start script [workflow] [{ id := "e", workflowId := "w" }] default, ⟨rfl, rfl⟩⟩
    let ended := (runExecution {} "e").run answer s
    Steady answer (fun r => r.1.record) (Fields.get? [("w", workflow)]) ∧ ended.1.isOk = false ∧
      ended.2.1.saved = [.running] ∧ (ended.2.1.record "e").map (·.status) = some .running := by
  rw [Http.decodeResponse_deepReply]
  exact ⟨Rehearsal.steady (fun _ => rfl) _, by decide +kernel⟩

end Automation
