import Automation.Proofs.Lockstep
import Automation.Proofs.LogTrail

/-!
A log that fails. Two runs of an execution on the same stores and the same network, with clocks of their
own and with logs of which each refuses what it will, are the same run but for the times: the same walk,
the same records and the same requests, and the logs are given the same entries. Each log holds those
that it did not refuse.
-/
namespace Automation

open Proc

/-- A network replies to requests and changes by it. -/
abbrev Network (ν : Type) := Http.Request → ν → Reply × ν

/-- What a log raises when it is given an entry, by the number of the attempt. An entry on which it
raises nothing is stored. -/
abbrev Refusals := Nat → Option Failure

/-- The entries that a log stores of those that it is given, the first of them at the attempt with the
number `n`. -/
def Refusals.taken (refusals : Refusals) (n : Nat) (given : List LogEntry) : List LogEntry :=
  (given.zipIdx n).filterMap fun (entry, i) => if (refusals i).isNone then some entry else none

/-- The stores of a rehearsal, with a network, a clock and a log in the place of its own. -/
structure Trial (ν : Type) where
  stores : Rehearsal
  network : ν
  readings : Nat := 0
  attempts : Nat := 0
  /-- The entries that the log has stored. -/
  stored : List LogEntry := []

namespace Trial

variable {ν : Type}

def appendLog (refusals : Refusals) (entry : LogEntry) (t : Trial ν) : Except Failure Unit × Trial ν :=
  let attempted := { t with attempts := t.attempts + 1 }
  match refusals t.attempts with
  | some failure => (.error failure, attempted)
  | none => (.ok (), { attempted with stored := t.stored ++ [entry] })

/-- Answers the calls of a run. -/
def answer (network : Network ν) (clock : Nat → Instant) (refusals : Refusals) : Answerer (Trial ν)
  | .send request, t =>
    ((network request t.network).1, { t with network := (network request t.network).2 })
  | .readClock, t => (clock t.readings, { t with readings := t.readings + 1 })
  | .appendLog entry, t => t.appendLog refusals entry
  | c, t => ((Rehearsal.answer c t.stores).1, { t with stores := (Rehearsal.answer c t.stores).2 })

end Trial

/-- Records without the times. -/
def timeless (records : Fields Execution) : Fields Execution :=
  records.map fun (id, e) => (id, e.untimed)

theorem get?_timeless (records : Fields Execution) (id : String) :
    (timeless records).get? id = (records.get? id).map (·.untimed) :=
  Fields.get?_map _ records id

theorem timeless_insert (records : Fields Execution) (id : String) (e : Execution) :
    timeless (Fields.insert id e records) = Fields.insert id e.untimed (timeless records) := by
  induction records with
  | nil => rfl
  | cons field rest ih =>
    obtain ⟨k, e'⟩ := field
    by_cases h : k = id
    · simp [Fields.insert, timeless, h]
    · simp only [timeless] at ih
      simp [Fields.insert, timeless, h, ih]

/-- Stores that differ in nothing but the times of records. -/
structure Rehearsal.Like (r r' : Rehearsal) : Prop where
  faults : r.script.faults = r'.script.faults
  passed : r.passed = r'.passed
  workflows : r.workflows = r'.workflows
  executions : timeless r.executions = timeless r'.executions

namespace Rehearsal.Like

variable {r r' : Rehearsal}

theorem refl (r : Rehearsal) : r.Like r := ⟨rfl, rfl, rfl, rfl⟩

theorem record (h : r.Like r') (id : String) :
    (r.record id).map (·.untimed) = (r'.record id).map (·.untimed) := by
  simp only [Rehearsal.record, ← get?_timeless, h.executions]

/-- A point is passed alike: both stores fail there with the same failure, or neither fails. -/
theorem pass (h : r.Like r') (p : FaultPoint) : ∃ fault after after',
    r.pass p = (fault, after) ∧ r'.pass p = (fault, after') ∧ after.Like after' := by
  refine ⟨(r.pass p).1, (r.pass p).2, (r'.pass p).2, rfl, ?_,
    ⟨h.faults, congrArg (·.step p) h.passed, h.workflows, h.executions⟩⟩
  simp only [Rehearsal.pass, h.faults, h.passed]

theorem loadExecution (h : r.Like r') (id : String) :
    (r.loadExecution id).1.map (·.map (·.untimed)) = (r'.loadExecution id).1.map (·.map (·.untimed)) ∧
      (r.loadExecution id).2.Like (r'.loadExecution id).2 := by
  obtain ⟨fault, after, after', passed, passed', like⟩ := h.pass .loadExecution
  cases fault with
  | some failure =>
    simp only [Rehearsal.loadExecution, passed, passed']
    exact ⟨trivial, like⟩
  | none =>
    simp only [Rehearsal.loadExecution, passed, passed']
    exact ⟨congrArg Except.ok (like.record id), like⟩

theorem loadWorkflow (h : r.Like r') (id : String) :
    (r.loadWorkflow id).1 = (r'.loadWorkflow id).1 ∧
      (r.loadWorkflow id).2.Like (r'.loadWorkflow id).2 := by
  obtain ⟨fault, after, after', passed, passed', like⟩ := h.pass .loadWorkflow
  cases fault with
  | some failure =>
    simp only [Rehearsal.loadWorkflow, passed, passed']
    exact ⟨trivial, like⟩
  | none =>
    simp only [Rehearsal.loadWorkflow, passed, passed', like.workflows]
    exact ⟨trivial, like⟩

theorem stored (h : r.Like r') {e e' : Execution} (same : e.untimed = e'.untimed) :
    (r.stored e).Like (r'.stored e') := by
  have sameId : e.id = e'.id := congrArg (·.id) same
  refine ⟨h.faults, h.passed, h.workflows, ?_⟩
  simp only [Rehearsal.stored, timeless_insert, sameId, same, h.executions]

theorem saveExecution (h : r.Like r') {e e' : Execution} (same : e.untimed = e'.untimed) :
    (r.saveExecution e).1 = (r'.saveExecution e').1 ∧
      (r.saveExecution e).2.Like (r'.saveExecution e').2 := by
  obtain ⟨fault, before, before', passed, passed', like⟩ := h.pass .beforeSave
  cases fault with
  | some failure =>
    simp only [Rehearsal.saveExecution, passed, passed']
    exact ⟨trivial, like⟩
  | none =>
    obtain ⟨fault, after, after', ends, ends', like⟩ := (like.stored same).pass .afterSave
    unfold Rehearsal.stored at ends ends'
    cases fault with
    | some failure =>
      simp only [Rehearsal.saveExecution, passed, passed', ends, ends']
      exact ⟨trivial, like⟩
    | none =>
      simp only [Rehearsal.saveExecution, passed, passed', ends, ends']
      exact ⟨trivial, like⟩

end Rehearsal.Like

namespace Trial

variable {ν : Type}

/-- Trials that are alike but for their clocks and their logs. -/
structure Like (t t' : Trial ν) : Prop where
  stores : t.stores.Like t'.stores
  network : t.network = t'.network

theorem Like.refl (t : Trial ν) : t.Like t := ⟨.refl t.stores, rfl⟩

section

variable (network : Network ν) (clock clock' : Nat → Instant) (refusals refusals' : Refusals)

/-- The log, the clock and the journal are no part of the likeness. -/
theorem like_aside {c : Call} (h : c.Disregarded) {t t' : Trial ν} (like : t.Like t') :
    (answer network clock refusals c t).2.Like t' ∧ t.Like (answer network clock refusals c t').2 := by
  obtain ⟨⟨faults, passed, workflows, executions⟩, state⟩ := like
  cases c with
  | appendLog entry =>
    simp only [answer, appendLog]
    constructor
    · cases refusals t.attempts <;> exact ⟨⟨faults, passed, workflows, executions⟩, state⟩
    · cases refusals t'.attempts <;> exact ⟨⟨faults, passed, workflows, executions⟩, state⟩
  | readClock | write _ | enterContext _ | leaveContext =>
    exact ⟨⟨⟨faults, passed, workflows, executions⟩, state⟩,
      ⟨faults, passed, workflows, executions⟩, state⟩
  | _ => exact h.elim

/-- Whatever the clocks say and whatever the logs refuse, two trials are answered alike. -/
theorem agree : Agree (answer network clock refusals) (answer network clock' refusals') Like where
  aside := fun h like => (like_aside network clock refusals h like).1
  aside' := fun h like => (like_aside network clock' refusals' h like).2
  load := by
    intro id t t' like
    have loaded := like.stores.loadExecution id
    exact ⟨loaded.1, loaded.2, like.network⟩
  save := by
    intro e e' t t' same like
    have saved := like.stores.saveExecution same
    exact ⟨saved.1, saved.2, like.network⟩
  find := by
    intro id t t' like
    have loaded := like.stores.loadWorkflow id
    exact ⟨loaded.1, loaded.2, like.network⟩
  send := by
    intro request t t' like
    simp only [answer, like.network]
    exact ⟨trivial, like.stores, rfl⟩

end

/-- A log stores the entries that it is given, without those that it refuses. -/
theorem stored_run {α : Type} (network : Network ν) (clock : Nat → Instant) (refusals : Refusals)
    (p : Proc α) (t : Trial ν) :
    (p.run (answer network clock refusals) t).2.stored = t.stored ++
      refusals.taken t.attempts (entries (p.trace (answer network clock refusals) t)) := by
  induction p generalizing t with
  | done a => simp [entries, Refusals.taken]
  | call c next ih =>
    rw [Proc.run, Proc.trace, ih]
    cases c with
    | appendLog entry =>
      cases refused : refusals t.attempts <;>
        simp [answer, appendLog, refused, entries, Exchange.logged?, Refusals.taken]
    | _ => rfl

end Trial

/-- What is left behind shows which requests were made. -/
theorem requests_left (t : List Exchange) : requests t = (left t).filterMap (·.request?) := by
  simp only [requests, left, deeds, List.filterMap_map, List.filterMap_filterMap]
  congr 1
  funext x
  obtain ⟨c, a⟩ := x
  cases c <;> rfl

/-- What is left behind shows which entries the log was given. -/
theorem entries_left (t : List Exchange) : entries t = (left t).filterMap (·.logged?) := by
  simp only [entries, left, deeds, List.filterMap_map, List.filterMap_filterMap]
  congr 1
  funext x
  obtain ⟨c, a⟩ := x
  cases c <;> rfl

/-- Whatever two logs refuse and whatever two clocks say, two runs of an execution on the same stores and
the same network differ in the times only. They come to the same result, save the same records, give
their logs the same entries and make the same requests, all in the same order, and leave the same
records; each log has stored the entries that it did not refuse. The walks of two runs, begun in trials
that are alike, visit the same nodes in the same order and keep the same outputs. -/
theorem log_failures_change_nothing {ν : Type} (network : Network ν) (clock clock' : Nat → Instant)
    (refusals refusals' : Refusals) (stores : Rehearsal) (state : ν) :
    let answer := Trial.answer network clock refusals
    let answer' := Trial.answer network clock' refusals'
    let t : Trial ν := { stores, network := state }
    (∀ settings id,
      let run := (runExecution settings id).run answer t
      let run' := (runExecution settings id).run answer' t
      let exchanges := (runExecution settings id).trace answer t
      let exchanges' := (runExecution settings id).trace answer' t
      run.1.map (·.map (·.untimed)) = run'.1.map (·.map (·.untimed)) ∧
      left exchanges = left exchanges' ∧
      requests exchanges = requests exchanges' ∧ entries exchanges = entries exchanges' ∧
      (∀ id, (run.2.stores.record id).map (·.untimed) = (run'.2.stores.record id).map (·.untimed)) ∧
      run.2.stored = refusals.taken 0 (entries exchanges) ∧
      run'.2.stored = refusals'.taken 0 (entries exchanges')) ∧
    ∀ run w start, ∀ t t' : Trial ν, t.Like t' →
      ((walkFrom run w start).run answer t).1 = ((walkFrom run w start).run answer' t').1 ∧
      left ((walkFrom run w start).trace answer t) = left ((walkFrom run w start).trace answer' t') := by
  intro answer answer' t
  have agree : Agree answer answer' Trial.Like := Trial.agree network clock clock' refusals refusals'
  constructor
  · intro settings id run run' exchanges exchanges'
    obtain ⟨result, like, same⟩ := runExecution_lockstep agree settings id t t (.refl t)
    refine ⟨result, same, ?_, ?_, like.stores.record, ?_, ?_⟩
    · rw [requests_left, requests_left, same]
    · rw [entries_left, entries_left, same]
    · exact Trial.stored_run network clock refusals (runExecution settings id) t
    · exact Trial.stored_run network clock' refusals' (runExecution settings id) t
  · intro run w start t t' like
    obtain ⟨result, -, same⟩ := walkFrom_lockstep agree rfl w start t t' like
    exact ⟨result, same⟩

end Automation
