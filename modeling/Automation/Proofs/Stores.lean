import Automation.Proofs.Shelf
import Mathlib.Logic.Function.Basic

/-!
The records that stores keep for all ids. A save changes the record of its own id alone, if it stores
anything; steady stores answer every call. Rehearsals have such stores, and steady ones where the script
has no faults.
-/
namespace Automation

theorem Call.reading_or_save (c : Call) : c.Reading ∨ ∃ e, c = .saveExecution e := by
  cases c with
  | saveExecution e => exact .inr ⟨e, rfl⟩
  | _ => exact .inl trivial

/-- Stores that keep records by id. A load that succeeds finds what is recorded; a save stores the record
under its id, or fails and stores nothing; no other call changes anything. -/
structure Records {σ : Type} (answer : Answerer σ) (record : σ → String → Option Execution) : Prop where
  load : ∀ id s found, (answer (.loadExecution id) s).1 = .ok found → found = record s id
  save : ∀ e s,
    record (answer (.saveExecution e) s).2 = Function.update (record s) e.id (some e) ∨
    record (answer (.saveExecution e) s).2 = record s ∧
      ∃ failure, (answer (.saveExecution e) s).1 = .error failure
  reads : ∀ c s, c.Reading → record (answer c s).2 = record s

/-- Stores that answer every call, with workflows that stay as they are. -/
structure Steady {σ : Type} (answer : Answerer σ) (record : σ → String → Option Execution)
    (workflow : String → Option Workflow) : Prop extends Records answer record where
  loads : ∀ id s, (answer (.loadExecution id) s).1 = .ok (record s id)
  saves : ∀ e s, (answer (.saveExecution e) s).1 = .ok ()
  workflows : ∀ id s, (answer (.loadWorkflow id) s).1 = .ok (workflow id)

/-- Every record is kept under its own id. -/
def Keyed (records : String → Option Execution) : Prop := ∀ id e, records id = some e → e.id = id

theorem Keyed.update {records : String → Option Execution} (h : Keyed records) (e : Execution) :
    Keyed (Function.update records e.id (some e)) := by
  intro id e' he
  by_cases hid : id = e.id
  · subst hid
    rw [Function.update_self] at he
    cases he
    rfl
  · rw [Function.update_of_ne hid] at he
    exact h id e' he

section

variable {σ : Type} {answer : Answerer σ} {record : σ → String → Option Execution}

theorem Records.save_other (records : Records answer record) {e : Execution} {id : String}
    (other : e.id ≠ id) (s : σ) : record (answer (.saveExecution e) s).2 id = record s id := by
  rcases records.save e s with stored | ⟨same, -⟩
  · rw [stored, Function.update_of_ne other.symm]
  · rw [same]

theorem Records.keyed (records : Records answer record) {s : σ} (h : Keyed (record s)) (c : Call) :
    Keyed (record (answer c s).2) := by
  rcases c.reading_or_save with reading | ⟨e, rfl⟩
  · rw [records.reads c s reading]
    exact h
  · rcases records.save e s with stored | ⟨same, -⟩
    · rw [stored]
      exact h.update e
    · rw [same]
      exact h

theorem Steady.save_eq {workflow : String → Option Workflow} (steady : Steady answer record workflow)
    (e : Execution) (s : σ) :
    record (answer (.saveExecution e) s).2 = Function.update (record s) e.id (some e) := by
  rcases steady.save e s with stored | ⟨-, failure, told⟩
  · exact stored
  · rw [steady.saves e s] at told
    cases told

end

/-- An answerer that is kept to the states of a kind that it never leaves. -/
def Answerer.confine {σ : Type} {I : σ → Prop} (answer : Answerer σ)
    (kept : ∀ c s, I s → I (answer c s).2) : Answerer {s // I s} :=
  fun c s => ((answer c s.1).1, ⟨(answer c s.1).2, kept c s.1 s.2⟩)

namespace Rehearsal

/-- What is recorded for an id. -/
def record (r : Rehearsal) (id : String) : Option Execution := r.executions.get? id

theorem record_stored (e : Execution) (r : Rehearsal) :
    record (r.stored e) = Function.update r.record e.id (some e) := by
  funext id
  rw [record, stored, Fields.get?_insert]
  by_cases h : id = e.id
  · rw [if_pos h, h, Function.update_self]
  · rw [if_neg h, Function.update_of_ne h]
    rfl

theorem keyed_foldl_insert (executions : List Execution) {records : Fields Execution}
    (h : Keyed records.get?) :
    Keyed (executions.foldl (fun es e => Fields.insert e.id e es) records).get? := by
  induction executions generalizing records with
  | nil => exact h
  | cons e rest ih =>
    apply ih
    intro id e' he
    rw [Fields.get?_insert] at he
    split at he
    · next hid =>
      cases he
      exact hid.symm
    · exact h id e' he

/-- A rehearsal starts with every record under its own id. -/
theorem keyed_start (script : Script) (workflows : List Workflow) (executions : List Execution)
    (now : Instant) : Keyed (start script workflows executions now).record :=
  keyed_foldl_insert executions fun _ _ h => by cases h

/-- The stores of a rehearsal keep records by id, whatever faults its script has. -/
theorem keeps_records : Records answer record where
  load := fun _ _ _ h => loadExecution_ok h
  save := by
    intro e r
    rcases saveExecution_cases e r with ⟨failure, failed⟩ | stored
    · right
      rw [answer, failed]
      exact ⟨rfl, failure, rfl⟩
    · left
      rw [answer, stored]
      exact record_stored e _
  reads := fun c r h => funext fun id => congrArg Shelf.record (shelf_reads id c r h)

/-- A rehearsal of a script, with its workflows. -/
structure Staged (script : Script) (workflows : Fields Workflow) (r : Rehearsal) : Prop where
  script : r.script = script
  workflows : r.workflows = workflows

variable {script : Script} {workflows : Fields Workflow} {r : Rehearsal}

theorem Staged.pass (h : Staged script workflows r) (p : FaultPoint) :
    Staged script workflows (r.pass p).2 := ⟨h.script, h.workflows⟩

theorem Staged.stored (h : Staged script workflows r) (e : Execution) :
    Staged script workflows (r.stored e) := ⟨h.script, h.workflows⟩

theorem loadExecution_snd (id : String) (r : Rehearsal) :
    (r.loadExecution id).2 = (r.pass .loadExecution).2 := by
  rcases hp : r.pass .loadExecution with ⟨_ | failure, r'⟩ <;> simp only [loadExecution, hp]

theorem loadWorkflow_snd (id : String) (r : Rehearsal) :
    (r.loadWorkflow id).2 = (r.pass .loadWorkflow).2 := by
  rcases hp : r.pass .loadWorkflow with ⟨_ | failure, r'⟩ <;> simp only [loadWorkflow, hp]

/-- No call changes the script or the workflows. -/
theorem Staged.answer (c : Call) (r : Rehearsal) (h : Staged script workflows r) :
    Staged script workflows (answer c r).2 := by
  cases c with
  | loadExecution id =>
    rw [Rehearsal.answer, loadExecution_snd]
    exact h.pass _
  | loadWorkflow id =>
    rw [Rehearsal.answer, loadWorkflow_snd]
    exact h.pass _
  | saveExecution e =>
    rw [Rehearsal.answer]
    rcases saveExecution_cases e r with ⟨failure, failed⟩ | stored
    · rw [failed]
      exact h.pass _
    · rw [stored]
      exact ((h.pass _).stored e).pass _
  | appendLog entry =>
    by_cases fails : r.script.appendFails (r.attempts + 1) = true
    · simp only [Rehearsal.answer, appendLog, if_pos fails]
      exact ⟨h.script, h.workflows⟩
    · simp only [Rehearsal.answer, appendLog, if_neg fails]
      exact ⟨h.script, h.workflows⟩
  | send _ | readClock | write _ | enterContext _ | leaveContext => exact ⟨h.script, h.workflows⟩

/-- A point without faults is passed. -/
theorem pass_faultless {p : FaultPoint} (faultless : r.script.faults p = []) :
    r.pass p = (none, { r with passed := r.passed.step p }) := by
  simp [pass, faultless]

theorem loadExecution_faultless (faultless : r.script.faults .loadExecution = []) (id : String) :
    (r.loadExecution id).1 = .ok (r.record id) := by
  simp only [loadExecution, pass_faultless faultless]
  rfl

theorem loadWorkflow_faultless (faultless : r.script.faults .loadWorkflow = []) (id : String) :
    (r.loadWorkflow id).1 = .ok (r.workflows.get? id) := by
  simp only [loadWorkflow, pass_faultless faultless]

theorem saveExecution_faultless (faultless : ∀ p, r.script.faults p = []) (e : Execution) :
    (r.saveExecution e).1 = .ok () := by
  let r₁ : Rehearsal := { r with passed := r.passed.step .beforeSave }
  have after : (r₁.stored e).pass .afterSave = (none, _) := pass_faultless (faultless .afterSave)
  unfold stored at after
  simp only [saveExecution, pass_faultless (faultless .beforeSave)]
  rw [after]

/-- The answers of a rehearsal of a script with its workflows, which it never leaves. -/
abbrev staged (script : Script) (workflows : Fields Workflow) :
    Answerer {r // Staged script workflows r} := Answerer.confine answer Staged.answer

/-- The stores of a rehearsal are steady where its script has no faults. -/
theorem steady (faultless : ∀ p, script.faults p = []) (workflows : Fields Workflow) :
    Steady (staged script workflows) (fun r => record r.1) workflows.get? where
  load := fun id r => keeps_records.load id r.1
  save := fun e r => keeps_records.save e r.1
  reads := fun c r => keeps_records.reads c r.1
  loads := by
    rintro id ⟨r, h⟩
    exact loadExecution_faultless (by rw [h.script, faultless]) id
  saves := by
    rintro e ⟨r, h⟩
    exact saveExecution_faultless (by rw [h.script]; exact faultless) e
  workflows := by
    rintro id ⟨r, h⟩
    have loaded := loadWorkflow_faultless (r := r) (by rw [h.script, faultless]) id
    rw [h.workflows] at loaded
    exact loaded

end Rehearsal
end Automation
