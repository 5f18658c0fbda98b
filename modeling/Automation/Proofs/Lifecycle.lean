import Automation.Proofs.Loop
import Automation.Proofs.Shelf

/-!
The record of an execution while it is run. The stores may fail at every call, and a save may fail
although it stored the record. A guarded run stores a status of running first and the status of an
execution that is over last, if anything, and it leaves no execution running unless the attempt to mark
it as failed is thwarted as well.
-/
namespace Automation

open Proc

theorem Call.OfWalk.reading {c : Call} {id : String} (h : c.OfWalk id) : c.Reading := by
  cases c <;> first | exact h | trivial

/-- A record of an execution that is over. -/
structure Over (id : String) (e : Execution) : Prop where
  own : e.id = id
  terminal : e.status.isTerminal = true
  ended : e.endedAt.isSome = true

/-- How a run that has begun ends: the record of an execution that is over is stored, the same although
the run fails, or the run fails and stores nothing. -/
inductive Ends (id : String) (before after : Shelf) : Except Failure Execution → Prop
  | stored {e} (isOver : Over id e) (put : after = before.put e) : Ends id before after (.ok e)
  | lost {e} (failure) (isOver : Over id e) (put : after = before.put e) :
      Ends id before after (.error failure)
  | left (failure) (same : after = before) : Ends id before after (.error failure)

/-- How far a run comes: there is no record, the run fails before it stores anything, or it stores that
it is running and ends. -/
inductive Comes (id : String) (before after : Shelf) : Except Failure (Option Execution) → Prop
  | absent (missing : before.record = none) (same : after = before) : Comes id before after (.ok none)
  | unstarted (failure) (same : after = before) : Comes id before after (.error failure)
  | started {e ended result} (running : e.status = .running) (own : e.id = id)
      (ends : Ends id (before.put e) after ended) (told : ended.map some = result) :
      Comes id before after result

/-- What an attempt to mark an execution as failed comes to: a call fails and nothing is stored, there
is no record or one of an execution that is over, or the record is replaced by one that failed. -/
inductive Marks (id : String) (before after : Shelf) (trace : List Exchange) : Prop
  | thwarted (same : after = before) (failed : ∃ x ∈ trace, x.failed = true)
  | needless (same : after = before) (terminal : ∀ e, before.record = some e → e.status.isTerminal = true)
  | failed {e e'} (record : before.record = some e) (unfinished : e.status.isTerminal = false)
      (isOver : Over id e') (status : e'.status = .failed) (put : after = before.put e')

section

variable {σ : Type} {answer : Answerer σ} {id : String} {shelf : σ → Shelf}

/-- A run that is ended stores its end, or fails. -/
theorem finish_ends (keeps : Keeps answer id shelf) {e : Execution} (own : e.id = id) {status : Status}
    (terminal : status.isTerminal = true) {s s' : σ} {result : Except Failure Execution}
    (h : (finish e status).run answer s = (result, s')) : Ends id (shelf s) (shelf s') result := by
  unfold finish at h
  obtain ⟨now, s₁, clock, h⟩ := run_ask_bind h
  obtain ⟨answered, s₂, saved, h⟩ := run_ask_bind h
  have isOver : Over id { e with status := status, endedAt := some now } := ⟨own, terminal, rfl⟩
  rw [← keeps.reads_eq clock trivial]
  have stored := keeps.save_cases isOver.own saved
  cases answered with
  | error failure =>
    cases h
    rcases stored with put | ⟨same, -⟩
    · exact .lost failure isOver put
    · exact .left failure same
  | ok _ =>
    obtain ⟨_, s₃, h, same⟩ := keeps.after h (Only.ask trivial)
    cases h
    rcases stored with put | ⟨-, _, told⟩
    · exact .stored isOver (same.trans put)
    · cases told

theorem followWorkflow_ends (keeps : Keeps answer id shelf) (settings : EngineSettings)
    {e : Execution} (own : e.id = id) (w : Workflow) {s s' : σ} {result : Except Failure Execution}
    (h : (followWorkflow settings e w).run answer s = (result, s')) :
    Ends id (shelf s) (shelf s') result := by
  unfold followWorkflow at h
  simp only at h
  split at h
  · obtain ⟨_, s₁, h, same⟩ := keeps.after h (Only.ask trivial)
    rw [← same]
    exact finish_ends keeps own rfl h
  · next trigger _ =>
    obtain ⟨_, s₁, h, same₁⟩ := keeps.after h (Only.ask trivial)
    obtain ⟨ended, s₂, h, same₂⟩ :=
      keeps.after h ((walkStack_only _ {} [trigger.id]).mono fun _ h => h.reading)
    rw [← same₁, ← same₂]
    obtain ⟨failure, walk⟩ := ended
    cases failure with
    | some failure =>
      cases h
      exact .left failure rfl
    | none =>
      obtain ⟨_, s₃, h, same₃⟩ := keeps.after h (Only.ask trivial)
      rw [← same₃]
      refine finish_ends keeps ?_ rfl h
      by_cases hk : settings.keepOutputs = true
      · rw [if_pos hk]
        exact own
      · rw [if_neg hk]
        exact own

/-- A run that marks its execution as running either fails before that is stored, or ends after it. -/
theorem carryOutExecution_ends (keeps : Keeps answer id shelf) (settings : EngineSettings)
    {e : Execution} (own : e.id = id) {s s' : σ} {result : Except Failure Execution}
    (h : (carryOutExecution settings e).run answer s = (result, s')) :
    (∃ failure, result = .error failure) ∧ shelf s' = shelf s ∨
    ∃ e₁, e₁.id = id ∧ e₁.status = .running ∧ Ends id ((shelf s).put e₁) (shelf s') result := by
  unfold carryOutExecution at h
  obtain ⟨now, s₁, clock, h⟩ := run_ask_bind h
  obtain ⟨answered, s₂, saved, h⟩ := run_ask_bind h
  have own₁ : ({ e with status := .running, startedAt := some now } : Execution).id = id := own
  have stored := keeps.save_cases own₁ saved
  rw [← keeps.reads_eq clock trivial]
  cases answered with
  | error failure =>
    cases h
    rcases stored with put | ⟨same, -⟩
    · exact .inr ⟨_, own₁, rfl, .left failure put⟩
    · exact .inl ⟨⟨failure, rfl⟩, same⟩
  | ok _ =>
    have put : shelf s₂ = (shelf s₁).put { e with status := .running, startedAt := some now } := by
      rcases stored with put | ⟨-, _, told⟩
      · exact put
      · cases told
    obtain ⟨loaded, s₃, asked, h⟩ := run_ask_bind h
    have same₃ : shelf s₃ = shelf s₂ := keeps.reads_eq asked trivial
    refine .inr ⟨_, own₁, rfl, ?_⟩
    rw [← put, ← same₃]
    match loaded, h with
    | .error failure, h =>
      cases h
      exact .left failure rfl
    | .ok none, h =>
      obtain ⟨_, s₄, h, same₄⟩ := keeps.after h (Only.ask trivial)
      rw [← same₄]
      exact finish_ends keeps own₁ rfl h
    | .ok (some w), h => exact followWorkflow_ends keeps settings own₁ w h

/-- How far a run comes from a shelf with its own record, or none. -/
theorem runExecution_comes (keeps : Keeps answer id shelf) (settings : EngineSettings) {s s' : σ}
    (own : (shelf s).Own id) {result : Except Failure (Option Execution)}
    (h : (runExecution settings id).run answer s = (result, s')) :
    Comes id (shelf s) (shelf s') result := by
  unfold runExecution at h
  obtain ⟨loaded, s₁, asked, h⟩ := run_ask_bind h
  have same₁ : shelf s₁ = shelf s := keeps.reads_eq asked trivial
  match loaded, h, asked with
  | .error failure, h, _ =>
    cases h
    exact .unstarted failure same₁
  | .ok none, h, asked =>
    obtain ⟨_, s₂, h, same₂⟩ := keeps.after h (Only.ask trivial)
    cases h
    exact .absent (keeps.load_eq asked).symm (same₂.trans same₁)
  | .ok (some e), h, asked =>
    have own_e : e.id = id := own e (keeps.load_eq asked).symm
    obtain ⟨_, s₂, h, same₂⟩ := keeps.after h (Only.ask trivial)
    rw [run_bind] at h
    rcases carried : (carryOutExecution settings e).run answer s₂ with ⟨ended, s₃⟩
    rw [carried] at h
    obtain ⟨_, s₄, h, same₄⟩ := keeps.after h (Only.ask trivial)
    cases h
    rw [same₄, ← same₁, ← same₂]
    rcases carryOutExecution_ends keeps settings own_e carried with ⟨⟨failure, rfl⟩, same⟩ | ⟨e₁, h⟩
    · exact .unstarted failure same
    · exact .started h.2.1 h.1 h.2.2 rfl

theorem markFailed_marks (keeps : Keeps answer id shelf) {s s' : σ} (own : (shelf s).Own id)
    (h : (markFailed id).run answer s = ((), s')) :
    Marks id (shelf s) (shelf s') ((markFailed id).trace answer s) := by
  obtain ⟨loaded, s₁, asked, h⟩ := run_ask_bind h
  have first : (markFailed id).trace answer s = ⟨.loadExecution id, loaded⟩ :: _ :=
    trace_ask_bind asked
  have same₁ : shelf s₁ = shelf s := keeps.reads_eq asked trivial
  match loaded, h, asked, first with
  | .error failure, h, _, first =>
    have same : shelf s' = shelf s₁ := keeps.reads_eq (c := .write _) h trivial
    refine .thwarted (same.trans same₁) ⟨⟨.loadExecution id, .error failure⟩, ?_, rfl⟩
    rw [first]
    exact List.mem_cons_self
  | .ok none, h, asked, _ =>
    cases h
    refine .needless same₁ ?_
    intro e he
    rw [← keeps.load_eq asked] at he
    cases he
  | .ok (some e), h, asked, first =>
    have record : (shelf s).record = some e := (keeps.load_eq asked).symm
    by_cases terminal : e.status.isTerminal = true
    · simp only [if_pos terminal] at h
      cases h
      refine .needless same₁ ?_
      intro e' he
      rw [record] at he
      cases he
      exact terminal
    · simp only [if_neg terminal] at h first
      obtain ⟨now, s₂, clock, h⟩ := run_ask_bind h
      obtain ⟨answered, s₃, saved, h⟩ := run_ask_bind h
      rw [trace_ask_bind clock, trace_ask_bind saved] at first
      have isOver : Over id { e with status := .failed, endedAt := some now } := ⟨own e record, rfl, rfl⟩
      have same₂ : shelf s₂ = shelf s := (keeps.reads_eq clock trivial).trans same₁
      have same₃ : shelf s' = shelf s₃ := by
        match answered, h with
        | .ok _, h =>
          cases h
          rfl
        | .error failure, h => exact keeps.reads_eq (c := .write _) h trivial
      rcases keeps.save_cases isOver.own saved with put | ⟨same, failure, told⟩
      · refine .failed record (by simpa using terminal) isOver rfl ?_
        rw [same₃, put, same₂]
      · refine .thwarted (same₃.trans (same.trans same₂)) ?_
        rw [first, told]
        exact ⟨_, .tail _ (.tail _ (.head _)), rfl⟩

end

/-- The statuses that a guarded run may store, in order. -/
def lifecycles : List (List Status) :=
  [[], [.failed], [.running], [.running, .failed], [.running, .completed]]

theorem Status.isTerminal_iff {status : Status} :
    status.isTerminal = true ↔ status = .completed ∨ status = .failed := by
  cases status <;> decide

theorem Over.lifecycle {id : String} {e : Execution} (h : Over id e) :
    [.running, e.status] ∈ lifecycles := by
  rcases Status.isTerminal_iff.mp h.terminal with hs | hs
  · rw [hs]
    decide
  · rw [hs]
    decide

/-- What becomes of a record by a guarded run: the statuses that were stored are a lifecycle; and, if
the recovery was not thwarted, an execution that there was is over, with the time of its end unless it
was over before. -/
structure Settled (before after : Shelf) (recovery : List Exchange) : Prop where
  stored : ∃ stored ∈ lifecycles, after.stored = before.stored ++ stored
  ended : (∀ x ∈ recovery, x.failed = false) → ∀ e, before.record = some e →
    ∃ e', after.record = some e' ∧ e'.status.isTerminal = true ∧
      (e.status.isTerminal = false → e'.endedAt.isSome = true)

section

variable {id : String} {before middle after : Shelf} {recovery : List Exchange}

theorem Settled.over_status (h : Settled before after recovery)
    (clean : ∀ x ∈ recovery, x.failed = false) {e : Execution} (he : before.record = some e) :
    ∃ e', after.record = some e' ∧ (e'.status = .completed ∨ e'.status = .failed) ∧
      (e.status.isTerminal = false → e'.endedAt.isSome = true) := by
  obtain ⟨e', record, terminal, ended⟩ := h.ended clean e he
  exact ⟨e', record, Status.isTerminal_iff.mp terminal, ended⟩

theorem Comes.own {result : Except Failure (Option Execution)} (h : Comes id before after result)
    (own : before.Own id) : after.Own id := by
  cases h with
  | absent _ same | unstarted _ same =>
    rw [same]
    exact own
  | @started e _ _ _ own_e ends =>
    cases ends with
    | stored isOver put | lost _ isOver put =>
      rw [put]
      exact Shelf.own_put _ isOver.own
    | left _ same =>
      rw [same]
      exact Shelf.own_put _ own_e

/-- A run that ends well is settled by itself, and what it yields is stored. -/
theorem Comes.settled_of_ok {result : Option Execution} (h : Comes id before after (.ok result))
    (recovery : List Exchange) :
    Settled before after recovery ∧ ∀ e, result = some e → after.record = some e := by
  cases h with
  | absent missing same =>
    refine ⟨⟨⟨[], by decide, by rw [same, List.append_nil]⟩, ?_⟩, ?_⟩
    · intro _ e he
      rw [missing] at he
      cases he
    · intro e he
      cases he
  | @started e ended _ running own ends told =>
    cases ends with
    | @stored e' isOver put =>
      cases told
      refine ⟨⟨⟨[.running, e'.status], isOver.lifecycle, ?_⟩, ?_⟩, ?_⟩
      · rw [put, Shelf.stored_put, Shelf.stored_put, running, List.append_assoc]
        rfl
      · intro _ _ _
        exact ⟨e', by rw [put, Shelf.record_put], isOver.terminal, fun _ => isOver.ended⟩
      · intro e he
        cases he
        rw [put, Shelf.record_put]
    | lost failure | left failure => cases told

theorem Marks.stored_cases (marks : Marks id before after recovery) :
    after.stored = before.stored ∨ after.stored = before.stored ++ [.failed] ∧
      ∃ e, before.record = some e ∧ e.status.isTerminal = false := by
  cases marks with
  | thwarted same | needless same =>
    left
    rw [same]
  | @failed e e' record unfinished isOver status put =>
    right
    refine ⟨?_, e, record, unfinished⟩
    rw [put, Shelf.stored_put, status]

/-- An attempt that is not thwarted leaves the record of an execution that is over: the same as before,
or one with the time of its end. -/
theorem Marks.record_cases (marks : Marks id before after recovery)
    (clean : ∀ x ∈ recovery, x.failed = false) {e : Execution} (he : before.record = some e) :
    ∃ e', after.record = some e' ∧ e'.status.isTerminal = true ∧ (e' = e ∨ e'.endedAt.isSome = true) := by
  cases marks with
  | thwarted same failed =>
    obtain ⟨x, hx, hf⟩ := failed
    rw [clean x hx] at hf
    cases hf
  | needless same terminal =>
    rw [same]
    exact ⟨e, he, terminal e he, .inl rfl⟩
  | @failed _ e' record unfinished isOver status put =>
    exact ⟨e', by rw [put, Shelf.record_put], isOver.terminal, .inr isOver.ended⟩

/-- The attempt settles a run that has stored nothing. -/
theorem Marks.settled (marks : Marks id before after recovery) : Settled before after recovery := by
  constructor
  · rcases marks.stored_cases with stored | ⟨stored, -⟩
    · exact ⟨[], by decide, by rw [stored, List.append_nil]⟩
    · exact ⟨[.failed], by decide, stored⟩
  · intro clean e he
    obtain ⟨e', record, terminal, rfl | ended⟩ := marks.record_cases clean he
    · refine ⟨e', record, terminal, ?_⟩
      intro unfinished
      rw [terminal] at unfinished
      cases unfinished
    · exact ⟨e', record, terminal, fun _ => ended⟩

/-- The attempt settles a run that has stored that it is running. -/
theorem Marks.settled_of_running {e : Execution} (running : e.status = .running)
    (marks : Marks id (before.put e) after recovery) : Settled before after recovery := by
  constructor
  · rcases marks.stored_cases with stored | ⟨stored, -⟩
    · exact ⟨[.running], by decide, by rw [stored, Shelf.stored_put, running]⟩
    · refine ⟨[.running, .failed], by decide, ?_⟩
      rw [stored, Shelf.stored_put, running, List.append_assoc]
      rfl
  · intro clean _ _
    obtain ⟨e', record, terminal, rfl | ended⟩ :=
      marks.record_cases clean (Shelf.record_put before e)
    · rw [running] at terminal
      cases terminal
    · exact ⟨e', record, terminal, fun _ => ended⟩

/-- The attempt leaves a run settled that has stored its end, although it failed. -/
theorem Marks.settled_of_over {e e₁ : Execution} (running : e.status = .running) (isOver : Over id e₁)
    (marks : Marks id ((before.put e).put e₁) after recovery) : Settled before after recovery := by
  constructor
  · rcases marks.stored_cases with stored | ⟨-, e', record, unfinished⟩
    · refine ⟨[.running, e₁.status], isOver.lifecycle, ?_⟩
      rw [stored, Shelf.stored_put, Shelf.stored_put, running, List.append_assoc]
      rfl
    · cases record
      rw [isOver.terminal] at unfinished
      cases unfinished
  · intro clean _ _
    obtain ⟨e', record, terminal, rfl | ended⟩ :=
      marks.record_cases clean (Shelf.record_put (before.put e) e₁)
    · exact ⟨e', record, terminal, fun _ => isOver.ended⟩
    · exact ⟨e', record, terminal, fun _ => ended⟩

/-- A run that fails is settled by the attempt to mark it as failed. -/
theorem Comes.settled_of_error {failure : Failure} (h : Comes id before middle (.error failure))
    (marks : Marks id middle after recovery) : Settled before after recovery := by
  cases h with
  | unstarted _ same =>
    rw [same] at marks
    exact marks.settled
  | started running own ends told =>
    cases ends with
    | stored => cases told
    | lost _ isOver put =>
      rw [put] at marks
      exact marks.settled_of_over running isOver
    | left _ same =>
      rw [same] at marks
      exact marks.settled_of_running running

end

section

variable {σ : Type} (answer : Answerer σ) (settings : EngineSettings) (id : String) (s : σ)

/-- The exchanges that a guarded run makes after the run itself. -/
def recovery : List Exchange :=
  ((runGuarded settings id).trace answer s).drop ((runExecution settings id).trace answer s).length

end

section

variable {σ : Type} {answer : Answerer σ} {settings : EngineSettings} {id : String} {s s₁ : σ}

theorem runGuarded_of_ok {result : Option Execution}
    (h : (runExecution settings id).run answer s = (.ok result, s₁)) :
    (runGuarded settings id).run answer s = (result, s₁) ∧ recovery answer settings id s = [] := by
  unfold recovery runGuarded
  rw [run_bind, trace_bind, h]
  exact ⟨rfl, by rw [List.drop_left]; rfl⟩

/-- A guarded run that fails tells the journal, and marks the execution as failed. -/
theorem runGuarded_of_error {failure : Failure}
    (h : (runExecution settings id).run answer s = (.error failure, s₁)) :
    ∃ record, let s₂ := (answer (.write record) s₁).2
      (runGuarded settings id).run answer s = (none, ((markFailed id).run answer s₂).2) ∧
      recovery answer settings id s = ⟨.write record, ()⟩ :: (markFailed id).trace answer s₂ := by
  unfold recovery runGuarded
  rw [run_bind, trace_bind, h, List.drop_left]
  refine ⟨{ Journal.note .error .dispatcher s!"Execution {id} aborted: {failure.text}" with
    failure := some failure }, ?_, ?_⟩
  · simp only [run_bind, run_done]
    rfl
  · simp only
    rw [trace_ask_bind rfl, trace_bind, trace_done, List.append_nil]

end

/-- A guarded run always yields a result, that of the run or none where the run fails. Whatever faults
the stores have, the statuses that it stores are a lifecycle. If the recovery from a failure is not
thwarted by another, an execution that there was is over in the end, with the time of its end unless it
was over before. What the run yields is what is stored. -/
theorem runGuarded_settles {σ : Type} {answer : Answerer σ} {id : String} {shelf : σ → Shelf}
    (keeps : Keeps answer id shelf) (settings : EngineSettings) {s : σ} (own : (shelf s).Own id) :
    let r := (runGuarded settings id).run answer s
    r.1 = (match ((runExecution settings id).run answer s).1 with
      | .ok e => e
      | .error _ => none) ∧
    (∃ stored ∈ [[], [.failed], [.running], [.running, .failed], [.running, .completed]],
      (shelf r.2).stored = (shelf s).stored ++ stored) ∧
    ((∀ x ∈ recovery answer settings id s, x.failed = false) →
      ∀ e, (shelf s).record = some e → ∃ e', (shelf r.2).record = some e' ∧
        (e'.status = .completed ∨ e'.status = .failed) ∧
        (e.status.isTerminal = false → e'.endedAt.isSome = true)) ∧
    ∀ e, r.1 = some e → (shelf r.2).record = some e := by
  rcases h : (runExecution settings id).run answer s with ⟨result, s₁⟩
  have comes : Comes id (shelf s) (shelf s₁) result := runExecution_comes keeps settings own h
  cases result with
  | ok result =>
    obtain ⟨ended, recovered⟩ := runGuarded_of_ok h
    obtain ⟨settled, kept⟩ := comes.settled_of_ok []
    rw [ended, recovered]
    exact ⟨rfl, settled.stored, fun clean _ => settled.over_status clean, kept⟩
  | error failure =>
    obtain ⟨record, ended, recovered⟩ := runGuarded_of_error h
    have same := keeps.reads_eq (c := .write record) (s := s₁) rfl trivial
    rw [← same] at comes
    rcases marked : (markFailed id).run answer (answer (.write record) s₁).2 with ⟨_, s₂⟩
    have marks := markFailed_marks keeps (comes.own own) marked
    have settled := comes.settled_of_error marks
    rw [ended, recovered, marked]
    refine ⟨rfl, settled.stored, ?_, ?_⟩
    · intro clean e
      exact settled.over_status fun x hx => clean x (List.mem_cons_of_mem _ hx)
    · intro e he
      cases he

/-- The second save fails: the execution was stored as running, and is marked as failed. -/
theorem runGuarded_settles_second_save :
    let script : Script := { faults := fun p => if p = .beforeSave then [2] else [] }
    let r := Rehearsal.start script [] [{ id := "e", workflowId := "w" }] default
    Keeps Rehearsal.answer "e" (Rehearsal.shelf "e") ∧ (Rehearsal.shelf "e" r).Own "e" ∧
    (∀ x ∈ recovery Rehearsal.answer {} "e" r, x.failed = false) ∧
    let r' := ((runGuarded {} "e").run Rehearsal.answer r).2
    (Rehearsal.shelf "e" r').stored = [.running, .failed] ∧
    ∃ e', (Rehearsal.shelf "e" r').record = some e' ∧
      (e'.status = .completed ∨ e'.status = .failed) ∧ e'.endedAt.isSome = true := by
  intro script r
  refine ⟨Rehearsal.keeps "e", ?_⟩
  have own : (Rehearsal.shelf "e" r).Own "e" := by
    intro e he
    cases he
    rfl
  have clean : ∀ x ∈ recovery Rehearsal.answer {} "e" r, x.failed = false := by decide +kernel
  obtain ⟨-, -, closed, -⟩ := runGuarded_settles (Rehearsal.keeps "e") {} own
  obtain ⟨e', record, status, ended⟩ := closed clean _ rfl
  exact ⟨own, clean, by decide +kernel, e', record, status, ended rfl⟩

end Automation
