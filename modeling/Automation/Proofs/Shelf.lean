import Automation.Proofs.GraphIndex
import Automation.Proofs.Procedure
import Automation.Run.Rehearsal

/-!
What a store keeps for one id while nobody else writes there. Its loads and saves may fail at any time;
a save that fails may have stored the record before. The stores of a rehearsal are such stores,
whatever faults its script has.
-/
namespace Automation

/-- What a store keeps for an id: its record, if there is one, and the statuses that were stored so
far. -/
structure Shelf where
  record : Option Execution
  stored : List Status

/-- The shelf after a record was stored. -/
def Shelf.put (shelf : Shelf) (e : Execution) : Shelf := ⟨some e, shelf.stored ++ [e.status]⟩

/-- The record that is kept for an id has that id. -/
def Shelf.Own (id : String) (shelf : Shelf) : Prop := ∀ e, shelf.record = some e → e.id = id

@[simp] theorem Shelf.record_put (shelf : Shelf) (e : Execution) : (shelf.put e).record = some e := rfl
@[simp] theorem Shelf.stored_put (shelf : Shelf) (e : Execution) :
    (shelf.put e).stored = shelf.stored ++ [e.status] := rfl

theorem Shelf.own_put (shelf : Shelf) {e : Execution} {id : String} (h : e.id = id) :
    (shelf.put e).Own id := by
  intro e' he
  cases he
  exact h

/-- The calls that store no record. -/
def Call.Reading : Call → Prop
  | .saveExecution _ => False
  | _ => True

/-- A store that keeps the records of an id: a load that succeeds finds the record; a save stores the
record whether it succeeds or fails, or fails and stores nothing; and no other call changes anything. -/
structure Keeps {σ : Type} (answer : Answerer σ) (id : String) (shelf : σ → Shelf) : Prop where
  load : ∀ s found, (answer (.loadExecution id) s).1 = .ok found → found = (shelf s).record
  save : ∀ e s, e.id = id →
    shelf (answer (.saveExecution e) s).2 = (shelf s).put e ∨
    shelf (answer (.saveExecution e) s).2 = shelf s ∧
      ∃ failure, (answer (.saveExecution e) s).1 = .error failure
  reads : ∀ c s, c.Reading → shelf (answer c s).2 = shelf s

namespace Keeps

variable {σ : Type} {answer : Answerer σ} {id : String} {shelf : σ → Shelf} {s s' : σ}

theorem load_eq (keeps : Keeps answer id shelf) {found : Option Execution}
    (h : answer (.loadExecution id) s = (.ok found, s')) : found = (shelf s).record :=
  keeps.load s found (by rw [h])

theorem save_cases (keeps : Keeps answer id shelf) {e : Execution} (own : e.id = id)
    {result : Except Failure Unit} (h : answer (.saveExecution e) s = (result, s')) :
    shelf s' = (shelf s).put e ∨ shelf s' = shelf s ∧ ∃ failure, result = .error failure := by
  have saved := keeps.save e s own
  rw [h] at saved
  exact saved

theorem reads_eq (keeps : Keeps answer id shelf) {c : Call} {answered : c.Answer}
    (h : answer c s = (answered, s')) (reading : c.Reading) : shelf s' = shelf s := by
  have same := keeps.reads c s reading
  rw [h] at same
  exact same

/-- What follows a procedure that stores no record goes on from the same shelf. -/
theorem after (keeps : Keeps answer id shelf) {α β : Type} {p : Proc α} {f : α → Proc β} {b : β}
    (h : (p.bind f).run answer s = (b, s')) (reading : p.Only Call.Reading) :
    ∃ a s₁, (f a).run answer s₁ = (b, s') ∧ shelf s₁ = shelf s := by
  rw [Proc.run_bind] at h
  exact ⟨_, _, h, reading.run_eq answer shelf keeps.reads s⟩

end Keeps

namespace Rehearsal

/-- What the stores of a rehearsal keep for an id. -/
def shelf (id : String) (r : Rehearsal) : Shelf := ⟨r.executions.get? id, r.saved⟩

/-- Passing a point changes no shelf. -/
theorem shelf_pass {id : String} {p : FaultPoint} {r r' : Rehearsal} {failure : Option Failure}
    (h : r.pass p = (failure, r')) : shelf id r' = shelf id r := by
  cases h
  rfl

theorem loadExecution_ok {id : String} {r : Rehearsal} {found : Option Execution}
    (h : (r.loadExecution id).1 = .ok found) : found = (shelf id r).record := by
  rcases hp : r.pass .loadExecution with ⟨_ | failure, r'⟩
  · simp only [loadExecution, hp] at h
    cases h
    rw [← shelf_pass hp]
    rfl
  · simp only [loadExecution, hp] at h
    cases h

theorem shelf_loadExecution (id asked : String) (r : Rehearsal) :
    shelf id (r.loadExecution asked).2 = shelf id r := by
  rcases hp : r.pass .loadExecution with ⟨_ | failure, r'⟩ <;>
    simp only [loadExecution, hp] <;> exact shelf_pass hp

theorem shelf_loadWorkflow (id asked : String) (r : Rehearsal) :
    shelf id (r.loadWorkflow asked).2 = shelf id r := by
  rcases hp : r.pass .loadWorkflow with ⟨_ | failure, r'⟩ <;>
    simp only [loadWorkflow, hp] <;> exact shelf_pass hp

theorem shelf_appendLog (id : String) (entry : LogEntry) (r : Rehearsal) :
    shelf id (r.appendLog entry).2 = shelf id r := by
  by_cases h : r.script.appendFails (r.attempts + 1) = true
  · simp only [appendLog, if_pos h]
    rfl
  · simp only [appendLog, if_neg h]
    rfl

/-- The rehearsal in which a record was just stored. -/
def stored (e : Execution) (r : Rehearsal) : Rehearsal :=
  { r with
    executions := Fields.insert e.id e r.executions
    saved := r.saved ++ [e.status] }

/-- A save fails before the record is stored, or the record is stored and the save may still fail. -/
theorem saveExecution_cases (e : Execution) (r : Rehearsal) :
    (∃ failure, r.saveExecution e = (.error failure, (r.pass .beforeSave).2)) ∨
    (r.saveExecution e).2 = (((r.pass .beforeSave).2.stored e).pass .afterSave).2 := by
  rcases hp : r.pass .beforeSave with ⟨_ | failure, r₁⟩
  · right
    rcases hq : (r₁.stored e).pass .afterSave with ⟨_ | failure, r₃⟩ <;>
      unfold stored at hq <;> simp only [saveExecution, hp, hq]
  · left
    simp only [saveExecution, hp]
    exact ⟨failure, rfl⟩

/-- A save fails before the record is stored, or the record is stored. -/
theorem shelf_saveExecution (id : String) (e : Execution) (r : Rehearsal) (own : e.id = id) :
    shelf id (r.saveExecution e).2 = (shelf id r).put e ∨
    shelf id (r.saveExecution e).2 = shelf id r ∧
      ∃ failure, (r.saveExecution e).1 = .error failure := by
  rcases saveExecution_cases e r with ⟨failure, failed⟩ | stored
  · right
    rw [failed]
    exact ⟨rfl, failure, rfl⟩
  · left
    rw [stored, shelf, pass, Rehearsal.stored, Fields.get?_insert, if_pos own.symm]
    rfl

theorem shelf_reads (id : String) (c : Call) (r : Rehearsal) (h : c.Reading) :
    shelf id (answer c r).2 = shelf id r := by
  cases c with
  | saveExecution e => exact h.elim
  | loadExecution asked => exact shelf_loadExecution id asked r
  | loadWorkflow asked => exact shelf_loadWorkflow id asked r
  | appendLog entry => exact shelf_appendLog id entry r
  | _ => rfl

/-- The stores of a rehearsal keep their records under every script. -/
theorem keeps (id : String) : Keeps answer id (shelf id) where
  load := fun _ _ h => loadExecution_ok h
  save := fun e r own => shelf_saveExecution id e r own
  reads := fun c r h => shelf_reads id c r h

end Rehearsal
end Automation
