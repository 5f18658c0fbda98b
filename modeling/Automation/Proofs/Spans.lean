import Automation.Proofs.Fields
import Automation.Proofs.RunCalls
import Automation.Run.Rehearsal
import Automation.Store.Host

/-!
The fields on the records of a worker. A worker carries out guarded runs one after the other on one
thread, and its journal goes on from each to the next. From when a run has loaded its execution until the
run is over, all records carry the ids of that execution; all others carry nothing, and so none is left
from an earlier run. For this no field may be in force when a run begins, whatever came of those before.
-/
namespace Automation

open Proc
open Journal (Record Entry Tape)

/-- Writes several records, one after the other. -/
def Journal.Tape.writeAll (tape : Tape) (records : List Record) : Tape := records.foldl Tape.write tape

namespace Journal.Tape

theorem writeAll_eq (tape : Tape) (records : List Record) :
    tape.writeAll records = { tape with entries := tape.entries ++ records.map (⟨·, tape.fields⟩) } := by
  induction records generalizing tape with
  | nil => simp [writeAll]
  | cons record rest ih =>
    calc tape.writeAll (record :: rest) = (tape.write record).writeAll rest := rfl
      _ = _ := by simp [ih, write]

theorem writeAll_append (tape : Tape) (a b : List Record) :
    tape.writeAll (a ++ b) = (tape.writeAll a).writeAll b := List.foldl_append

end Journal.Tape

/-- The calls that leave the fields in force alone. -/
def Call.Unmarking : Call → Prop
  | .enterContext _ | .leaveContext => False
  | _ => True

/-- While it is carried out, an execution puts no fields in force and takes none off. -/
theorem carryOutExecution_unmarking (settings : EngineSettings) (e : Execution) :
    (carryOutExecution settings e).Only Call.Unmarking := by
  refine (carryOutExecution_only settings e).mono fun c made => ?_
  cases c with
  | enterContext _ | leaveContext => simp [Call.OfWalk, Call.OfEnd] at made
  | _ => trivial

theorem markFailed_unmarking (id : String) : (markFailed id).Only Call.Unmarking := by
  refine Only.bind (Only.ask trivial) fun loaded => ?_
  match loaded with
  | .error _ => exact Only.ask trivial
  | .ok none => exact Only.done _
  | .ok (some e) =>
    simp only
    split
    · exact Only.done _
    · refine Only.bind (Only.ask trivial) fun now => Only.bind (Only.ask trivial) fun saved => ?_
      cases saved with
      | ok _ => exact Only.done _
      | error _ => exact Only.ask trivial

section

variable {σ : Type} {answer : Answerer σ} {tape : σ → Tape} {s s' s'' : σ}

/-- Someone who keeps a journal while answering: a record is taken down with the fields in force, fields
are put in force and taken off, and whoever answers another call may take down records of its own, but
leaves the fields alone. -/
structure Journals (answer : Answerer σ) (tape : σ → Tape) : Prop where
  write : ∀ record s, tape (answer (.write record) s).2 = (tape s).write record
  enter : ∀ fields s, tape (answer (.enterContext fields) s).2 = (tape s).enter fields
  leave : ∀ s, tape (answer .leaveContext s).2 = (tape s).leave
  answers : ∀ c s, c.Unmarking → ∃ records, tape (answer c s).2 = (tape s).writeAll records

/-- A procedure that puts no fields in force and takes none off writes records at most. -/
theorem Journals.run (journals : Journals answer tape) {α : Type} {p : Proc α}
    (unmarking : p.Only Call.Unmarking) (s : σ) :
    ∃ records, tape (p.run answer s).2 = (tape s).writeAll records := by
  induction p generalizing s with
  | done a => exact ⟨[], rfl⟩
  | call c next ih =>
    obtain ⟨first, written⟩ := journals.answers c s unmarking.1
    obtain ⟨later, written'⟩ := ih _ (unmarking.2 _) (answer c s).2
    rw [written] at written'
    exact ⟨first ++ later, written'.trans (Tape.writeAll_append _ first later).symm⟩

/-- Between two states, records were taken down with certain fields, and in the end no field is in
force. -/
structure Marked (tape : σ → Tape) (fields : Fields Value) (s s' : σ) : Prop where
  taken : ∃ records : List Record,
    (tape s').entries = (tape s).entries ++ records.map (⟨·, fields⟩)
  clean : (tape s').fields = []

namespace Journals

variable {α : Type} {p : Proc α}

/-- Where no field is in force, such a procedure leaves records without any. -/
theorem plain (journals : Journals answer tape) (unmarking : p.Only Call.Unmarking)
    (clean : (tape s).fields = []) : Marked tape [] s (p.run answer s).2 := by
  obtain ⟨records, written⟩ := journals.run unmarking s
  rw [Tape.writeAll_eq] at written
  exact ⟨⟨records, by rw [written, clean]⟩, by rw [written]; exact clean⟩

/-- Where fields are put in force before it and all are taken off after it, its records carry those. -/
theorem bracketed (journals : Journals answer tape) (unmarking : p.Only Call.Unmarking)
    {fields : Fields Value} (distinct : fields.keys.Nodup) (clean : (tape s).fields = []) :
    Marked tape fields s
      (answer .leaveContext (p.run answer (answer (.enterContext fields) s).2).2).2 := by
  have inForce : tape (answer (.enterContext fields) s).2 = { tape s with fields := fields } := by
    rw [journals.enter, Tape.enter, clean, Fields.update_of_nodup [] fields distinct, List.nil_append]
  obtain ⟨records, written⟩ := journals.run unmarking (answer (.enterContext fields) s).2
  rw [inForce, Tape.writeAll_eq] at written
  constructor
  · exact ⟨records, by rw [journals.leave, Tape.leave, written]⟩
  · rw [journals.leave]
    rfl

/-- Once a run is answered whether there is an execution, all that it takes down carries the ids of that
execution, whatever ends the run. -/
theorem runExecution_marked (journals : Journals answer tape) (settings : EngineSettings) (id : String)
    (clean : (tape (answer (.loadExecution id) s).2).fields = []) :
    Marked tape ((answer (.loadExecution id) s).1.toOption.join.elim [] runFields)
      (answer (.loadExecution id) s).2 ((runExecution settings id).run answer s).2 := by
  have asked : (ask (.loadExecution id)).run answer s = answer (.loadExecution id) s := rfl
  rw [runExecution, run_bind, asked]
  match answer (.loadExecution id) s, clean with
  | (.error failure, s₁), clean => exact ⟨⟨[], (List.append_nil _).symm⟩, clean⟩
  | (.ok none, s₁), clean => exact journals.plain (Only.bind (Only.ask trivial) fun _ => Only.done _) clean
  | (.ok (some e), s₁), clean =>
    simp only [run_bind, run_done]
    have distinct : (runFields e).keys.Nodup := by simp [runFields, Fields.keys]
    exact journals.bracketed (carryOutExecution_unmarking settings e) distinct clean

/-- What the guard takes down after the run carries nothing. -/
theorem runGuarded_marked (journals : Journals answer tape) (settings : EngineSettings) (id : String)
    (clean : (tape ((runExecution settings id).run answer s).2).fields = []) :
    Marked tape [] ((runExecution settings id).run answer s).2
      ((runGuarded settings id).run answer s).2 := by
  rw [runGuarded, run_bind]
  refine journals.plain ?_ clean
  split
  · exact Only.done _
  · exact Only.bind (Only.ask trivial) fun _ => Only.bind (markFailed_unmarking id) fun _ => Only.done _

end Journals

/-- A stretch of a worker's journal, and the execution that a run had in hand meanwhile, if any. -/
structure Span where
  execution : Option Execution
  entries : List Entry

/-- The fields that the records of a stretch are to carry: the ids of the execution, or nothing. -/
def Span.fields (span : Span) : Fields Value := span.execution.elim [] runFields

/-- Stretches that cover the journal from one state to another, where all records carry what they are to
carry. In the end no field is in force. -/
structure Covered (tape : σ → Tape) (stretches : List Span) (s s' : σ) : Prop where
  entries : (tape s').entries = (tape s).entries ++ stretches.flatMap (·.entries)
  fields : ∀ span ∈ stretches, ∀ entry ∈ span.entries, entry.fields = span.fields
  clean : (tape s').fields = []

/-- What the journal has taken down from one state to a later one. -/
def since (tape : σ → Tape) (s s' : σ) : List Entry :=
  (tape s').entries.drop (tape s).entries.length

namespace Covered

theorem of_marked (execution : Option Execution) (h : Marked tape (execution.elim [] runFields) s s') :
    Covered tape [⟨execution, since tape s s'⟩] s s' := by
  obtain ⟨records, taken⟩ := h.taken
  exact ⟨by simp [since, taken], by simp [since, taken, Span.fields], h.clean⟩

theorem append {a b : List Span} (first : Covered tape a s s') (later : Covered tape b s' s'') :
    Covered tape (a ++ b) s s'' where
  entries := by rw [later.entries, first.entries, List.flatMap_append, List.append_assoc]
  fields := by
    intro span there
    rcases List.mem_append.mp there with there | there
    · exact first.fields span there
    · exact later.fields span there
  clean := later.clean

end Covered

variable (answer tape) (settings : EngineSettings)

/-- The stretches of one guarded run: until it is answered whether there is an execution, from then until
the run is over, and what the guard has to say after that. -/
def spansOf (id : String) (s : σ) : List Span :=
  let loaded := answer (.loadExecution id) s
  let ended := (runExecution settings id).run answer s
  let guarded := (runGuarded settings id).run answer s
  [⟨none, since tape s loaded.2⟩] ++ [⟨loaded.1.toOption.join, since tape loaded.2 ended.2⟩] ++
    [⟨none, since tape ended.2 guarded.2⟩]

/-- The stretches of several runs, one after the other. -/
def spans : List String → σ → List Span
  | [], _ => []
  | id :: rest, s =>
    spansOf answer tape settings id s ++ spans rest ((runGuarded settings id).run answer s).2

variable {answer tape}

/-- One run, with a guard, is covered by its three stretches. -/
theorem Journals.covered (journals : Journals answer tape) (id : String) (clean : (tape s).fields = []) :
    Covered tape (spansOf answer tape settings id s) s ((runGuarded settings id).run answer s).2 := by
  have loads := journals.plain (p := ask (.loadExecution id)) (Only.ask trivial) clean
  have runs := journals.runExecution_marked settings id loads.clean
  have guards := journals.runGuarded_marked settings id runs.clean
  exact ((Covered.of_marked none loads).append (.of_marked _ runs)).append (.of_marked none guards)

end

namespace Rehearsal

theorem tape_pass (p : FaultPoint) (r : Rehearsal) : (r.pass p).2.tape = r.tape := rfl

theorem tape_loadExecution (id : String) (r : Rehearsal) : (r.loadExecution id).2.tape = r.tape := by
  grind [loadExecution, tape_pass]

theorem tape_loadWorkflow (id : String) (r : Rehearsal) : (r.loadWorkflow id).2.tape = r.tape := by
  grind [loadWorkflow, tape_pass]

theorem tape_saveExecution (e : Execution) (r : Rehearsal) : (r.saveExecution e).2.tape = r.tape := by
  grind [saveExecution, tape_pass]

theorem tape_appendLog (entry : LogEntry) (r : Rehearsal) : (r.appendLog entry).2.tape = r.tape := by
  grind [appendLog]

/-- A rehearsal keeps a journal, and nothing but the run itself writes to it. -/
theorem journals : Journals answer (·.tape) where
  write _ _ := rfl
  enter _ _ := rfl
  leave _ := rfl
  answers := by
    intro c r unmarking
    cases c with
    | write record => exact ⟨[record], rfl⟩
    | enterContext _ | leaveContext => exact unmarking.elim
    | readClock | send _ => exact ⟨[], rfl⟩
    | loadExecution id => exact ⟨[], tape_loadExecution id r⟩
    | loadWorkflow id => exact ⟨[], tape_loadWorkflow id r⟩
    | saveExecution e => exact ⟨[], tape_saveExecution e r⟩
    | appendLog entry => exact ⟨[], tape_appendLog entry r⟩

end Rehearsal

namespace Host

variable {α : Type}

theorem tape_refuse (op : StoreOperation) (fault : StoreFault) (h : Host) :
    ∃ records, (h.refuse (α := α) op fault).2.tape = h.tape.writeAll records := by
  refine ⟨(op.faultNote fault).toList, ?_⟩
  unfold refuse
  cases op.faultNote fault <;> rfl

theorem tape_query (op : StoreOperation) (act : Contents → Except Failure α) (h : Host) :
    ∃ records, (h.query op act).2.tape = h.tape.writeAll records := by
  unfold query
  split
  · exact ⟨[], rfl⟩
  · exact tape_refuse op _ h

theorem tape_change (op : StoreOperation) (act : Contents → Except StoreFault Contents) (h : Host) :
    ∃ records, (h.change op act).2.tape = h.tape.writeAll records := by
  unfold change
  split
  · exact ⟨[], rfl⟩
  · exact tape_refuse op _ h

theorem tape_noteDone (level : Journal.Level) (message : String) (value : α)
    (done : Except Failure Unit × Host) :
    ∃ records, (noteDone level message value done).2.tape = done.2.tape.writeAll records := by
  obtain ⟨failure | _, h⟩ := done
  · exact ⟨[], rfl⟩
  · exact ⟨[Journal.note level .workflowStore message], rfl⟩

/-- So does a host, whose database and network write records of their own. -/
theorem journals : Journals answer (·.tape) where
  write _ _ := rfl
  enter _ _ := rfl
  leave _ := rfl
  answers := by
    intro c h unmarking
    cases c with
    | write record => exact ⟨[record], rfl⟩
    | enterContext _ | leaveContext => exact unmarking.elim
    | readClock => exact ⟨[], rfl⟩
    | loadExecution id => exact tape_query _ _ h
    | loadWorkflow id => exact tape_query _ _ h
    | appendLog entry => exact tape_change _ _ h.readClock.2
    | saveExecution e =>
      obtain ⟨changing, changed⟩ := tape_change .saveExecution (·.putExecution e) h
      obtain ⟨noting, noted⟩ := tape_noteDone .debug
        s!"Saved execution {e.id} with status {e.status.text}" () (h.change .saveExecution (·.putExecution e))
      rw [changed] at noted
      exact ⟨changing ++ noting, noted.trans (Tape.writeAll_append _ changing noting).symm⟩
    | send request =>
      refine ⟨(h.network h.sent request).record.toList, ?_⟩
      simp only [answer, send]
      cases (h.network h.sent request).record <;> rfl

end Host

/-- The runs of a worker, one after the other. -/
def workOff (settings : EngineSettings) : List String → Proc Unit
  | [] => .done ()
  | id :: rest => (runGuarded settings id).bind fun _ => workOff settings rest

/-- Whatever the stores, the log and the network answer, and however the runs of a worker end: the records
that the worker takes down are those of the stretches of its runs. All records from when a run has loaded
its execution until the run is over carry the ids of that execution and nothing else, all others carry
nothing, and after the last run no field is in force. -/
theorem records_carry_own_run {σ : Type} {answer : Answerer σ} {tape : σ → Tape}
    (journals : Journals answer tape) (settings : EngineSettings) (ids : List String) (s : σ)
    (clean : (tape s).fields = []) :
    let s' := ((workOff settings ids).run answer s).2
    (tape s').entries = (tape s).entries ++ (spans answer tape settings ids s).flatMap (·.entries) ∧
    (∀ span ∈ spans answer tape settings ids s, ∀ entry ∈ span.entries,
      entry.fields = span.execution.elim [] runFields) ∧
    (tape s').fields = [] := by
  have covered : Covered tape (spans answer tape settings ids s) s ((workOff settings ids).run answer s).2 := by
    induction ids generalizing s with
    | nil => exact ⟨(List.append_nil _).symm, fun _ none => absurd none List.not_mem_nil, clean⟩
    | cons id rest ih =>
      have first := journals.covered settings id clean
      rw [workOff, run_bind]
      exact first.append (ih _ first.clean)
  exact ⟨covered.entries, covered.fields, covered.clean⟩

/-- A run that is aborted where it loads its workflow, one that finds no workflow and one that finds no
execution, on one worker. -/
theorem records_of_three_runs :
    let a : Execution := { id := "a", workflowId := "w" }
    let b : Execution := { id := "b", workflowId := "w" }
    let faults : FaultPoint → List Nat := fun p => if p = .loadWorkflow then [1] else []
    let r := Rehearsal.start { faults } [] [a, b] default
    let runs := spans Rehearsal.answer (·.tape) {} ["a", "b", "c"] r
    let tape := ((workOff {} ["a", "b", "c"]).run Rehearsal.answer r).2.tape
    Journals Rehearsal.answer (·.tape) ∧ r.tape.fields = [] ∧
    tape.entries = runs.flatMap (·.entries) ∧ tape.fields = [] ∧
    (tape.entries.map fun entry => entry.fields.map fun (name, id) => (name, id.text)) =
      [[], [("execution_id", "b"), ("workflow_id", "w")], [("execution_id", "b"), ("workflow_id", "w")],
        []] := by
  intro a b faults r runs tape
  have clean : r.tape.fields = [] := rfl
  obtain ⟨covered, -, ended⟩ := records_carry_own_run Rehearsal.journals {} ["a", "b", "c"] r clean
  rw [show r.tape.entries = [] from rfl, List.nil_append] at covered
  exact ⟨Rehearsal.journals, clean, covered, ended, by decide +kernel⟩

end Automation
