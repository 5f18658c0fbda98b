import Automation.Run.Workers
import Mathlib.Data.List.Nodup
import Mathlib.Logic.Relation

/-!
What a dispatcher reports as active. It keeps the ids that were submitted and not yet forgotten, each of
them once, and forgets an id when any run of it is finished. So every id that it reports has a run that
is not over; but it reports all of them only as long as no id is submitted again while a run of it is not
over.
-/
namespace Automation

/-- How far a submission has come: it waits for a worker, it is run, its run is finished, and the
dispatcher has forgotten it. -/
inductive Stage where
  | queued
  | running
  | finished
  | forgotten
  deriving DecidableEq, Repr

/-- An execution that a dispatcher has accepted. -/
structure Submission where
  id : String
  stage : Stage
  deriving DecidableEq, Repr

/-- The id of a submission that is not forgotten. -/
def Submission.pending? (s : Submission) : Option String :=
  if s.stage = .forgotten then none else some s.id

/-- A dispatcher and all that it has accepted, in order. -/
structure Intake where
  dispatcher : Dispatcher
  submissions : List Submission := []
  deriving DecidableEq, Repr

namespace Intake

/-- The ids of the submissions that are not forgotten, an id as often as it has such submissions. -/
def pending (n : Intake) : List String := n.submissions.filterMap (·.pending?)

/-- A submission comes further. -/
def mark (n : Intake) (i : Nat) (id : String) (stage : Stage) : Intake :=
  { n with submissions := n.submissions.set i ⟨id, stage⟩ }

/-- What may happen to a dispatcher: it accepts an execution, where that is allowed; a run begins or is
finished; it is told of a finished run, and forgets its id; it is shut down. -/
inductive Step (allowed : Intake → String → Prop) : Intake → Intake → Prop
  | submit {n id d} (may : allowed n id) (accepted : n.dispatcher.submit id = .ok d) :
      Step allowed n ⟨d, n.submissions ++ [⟨id, .queued⟩]⟩
  | start {n i id} (turn : n.submissions[i]? = some ⟨id, .queued⟩) :
      Step allowed n (n.mark i id .running)
  | finish {n i id} (turn : n.submissions[i]? = some ⟨id, .running⟩) :
      Step allowed n (n.mark i id .finished)
  | forget {n i id} (turn : n.submissions[i]? = some ⟨id, .finished⟩) :
      Step allowed n { n.mark i id .forgotten with dispatcher := n.dispatcher.forget id }
  | shutDown {n} : Step allowed n { n with dispatcher := n.dispatcher.shutDown }

/-- Any number of steps. -/
abbrev Steps (allowed : Intake → String → Prop) : Intake → Intake → Prop :=
  Relation.ReflTransGen (Step allowed)

section

variable {n n' : Intake} {i : Nat} {id : String} {stage : Stage} {allowed : Intake → String → Prop}

/-- A submission that comes further stays at its place. -/
theorem mark_split {before : Stage} (turn : n.submissions[i]? = some ⟨id, before⟩) (stage : Stage) :
    ∃ front back, n.submissions = front ++ ⟨id, before⟩ :: back ∧
      (n.mark i id stage).submissions = front ++ ⟨id, stage⟩ :: back := by
  obtain ⟨there, is⟩ := List.getElem?_eq_some_iff.mp turn
  obtain ⟨front, back, split, -, after⟩ := List.exists_of_set there
  rw [is] at split
  exact ⟨front, back, split, after⟩

/-- A submission that comes further without being forgotten stays pending. -/
theorem pending_mark {before : Stage} (turn : n.submissions[i]? = some ⟨id, before⟩)
    (was : before ≠ .forgotten) (is : stage ≠ .forgotten) : (n.mark i id stage).pending = n.pending := by
  obtain ⟨front, back, split, after⟩ := mark_split turn stage
  simp [pending, split, after, Submission.pending?, was, is]

/-- A submission that is forgotten is no longer pending, and all others are as before. -/
theorem pending_forgotten {before : Stage} (turn : n.submissions[i]? = some ⟨id, before⟩)
    (was : before ≠ .forgotten) : n.pending.Perm (id :: (n.mark i id .forgotten).pending) := by
  obtain ⟨front, back, split, after⟩ := mark_split turn .forgotten
  simp [pending, split, after, Submission.pending?, was, List.perm_middle]

/-- An accepted execution is active, and no more often than before if it was. -/
theorem count_active_submit {d d' : Dispatcher} (accepted : d.submit id = .ok d') (other : String) :
    d'.active.count other = if id = other then max 1 (d.active.count other) else d.active.count other := by
  unfold Dispatcher.submit at accepted
  split at accepted
  · cases accepted
  · cases accepted
    by_cases active : id ∈ d.active
    · by_cases same : id = other
      · subst same
        simp [active]
      · simp [active, same]
    · by_cases same : id = other
      · subst same
        simp [active, List.count_eq_zero_of_not_mem active]
      · simp [active, same]

theorem maxWorkers_submit {d d' : Dispatcher} (accepted : d.submit id = .ok d') :
    d'.maxWorkers = d.maxWorkers := by
  unfold Dispatcher.submit at accepted
  split at accepted
  · cases accepted
  · cases accepted
    rfl

/-- How often an id is active and pending after a step: as often as before; or it was submitted; or it
was forgotten. -/
theorem Step.counts (step : Step allowed n n') (id : String) :
    n'.dispatcher.active.count id = n.dispatcher.active.count id ∧
      n'.pending.count id = n.pending.count id ∨
    allowed n id ∧ n'.dispatcher.active.count id = max 1 (n.dispatcher.active.count id) ∧
      n'.pending.count id = n.pending.count id + 1 ∨
    n'.dispatcher.active.count id = n.dispatcher.active.count id - 1 ∧
      n.pending.count id = n'.pending.count id + 1 := by
  cases step with
  | @submit asked d may accepted =>
    have active := count_active_submit accepted id
    have pending : (⟨d, n.submissions ++ [⟨asked, .queued⟩]⟩ : Intake).pending.count id =
        n.pending.count id + if asked = id then 1 else 0 := by
      simp [Intake.pending, Submission.pending?, List.count_singleton]
    by_cases same : asked = id
    · subst same
      rw [if_pos rfl] at active pending
      exact .inr (.inl ⟨may, active, pending⟩)
    · rw [if_neg same] at active pending
      exact .inl ⟨active, pending⟩
  | start turn | finish turn =>
    rw [pending_mark turn (by decide) (by decide)]
    exact .inl ⟨rfl, rfl⟩
  | @forget i told turn =>
    have pending := (pending_forgotten turn (by decide)).count_eq id
    rw [List.count_cons] at pending
    by_cases same : told = id
    · subst same
      rw [beq_self_eq_true, if_pos rfl] at pending
      exact .inr (.inr ⟨List.count_erase_self, pending⟩)
    · rw [beq_false_of_ne same] at pending
      exact .inl ⟨List.count_erase_of_ne (Ne.symm same), pending.symm⟩
  | shutDown => exact .inl ⟨rfl, rfl⟩

theorem Step.maxWorkers (step : Step allowed n n') :
    n'.dispatcher.maxWorkers = n.dispatcher.maxWorkers := by
  cases step with
  | submit may accepted => exact maxWorkers_submit accepted
  | _ => rfl

/-- An id is active at most once, and no more often than it is pending. -/
structure Covered (n : Intake) : Prop where
  once : ∀ id, n.dispatcher.active.count id ≤ 1
  pending : ∀ id, n.dispatcher.active.count id ≤ n.pending.count id

theorem Covered.step (h : Covered n) (step : Step allowed n n') : Covered n' := by
  constructor
  · intro id
    have := h.once id
    have := step.counts id
    omega
  · intro id
    have := h.pending id
    have := step.counts id
    omega

/-- An id that is not submitted while it is pending is active as often as it is pending. -/
theorem count_active_step (unpending : allowed n id → id ∉ n.pending)
    (h : n.dispatcher.active.count id = n.pending.count id) (step : Step allowed n n') :
    n'.dispatcher.active.count id = n'.pending.count id := by
  rcases step.counts id with ⟨active, pending⟩ | ⟨may, active, pending⟩ | ⟨active, pending⟩
  · omega
  · have := List.count_eq_zero_of_not_mem (unpending may)
    omega
  · omega

end

section

variable {allowed : Intake → String → Prop} {workers : Int} {n : Intake}

/-- Before anything is submitted. -/
abbrev fresh (workers : Int) : Intake := ⟨{ maxWorkers := workers }, []⟩

theorem covered (steps : Steps allowed (fresh workers) n) : Covered n := by
  induction steps with
  | refl => exact ⟨fun _ => Nat.zero_le 1, fun _ => Nat.le_refl 0⟩
  | tail _ step ih => exact ih.step step

theorem count_active {id : String} (unpending : ∀ n, allowed n id → id ∉ n.pending)
    (steps : Steps allowed (fresh workers) n) : n.dispatcher.active.count id = n.pending.count id := by
  induction steps with
  | refl => rfl
  | tail _ step ih => exact count_active_step (unpending _) ih step

theorem maxWorkers_eq (steps : Steps allowed (fresh workers) n) : n.dispatcher.maxWorkers = workers := by
  induction steps with
  | refl => rfl
  | tail _ step ih => rw [step.maxWorkers, ih]

end

end Intake

/-- What a dispatcher reports, after any order of submissions, runs and callbacks: every id at most once,
and only ids that have a run that is not finished and forgotten. An id that was never submitted while
such a run of it was left is reported as long as there is one. If this holds of all ids, the number of
active executions is that of the runs that are left, and the free slots are those that they leave. -/
theorem active_iff_pending (workers : Int) (n : Intake) :
    (Intake.Steps (fun _ _ => True) (.fresh workers) n →
      n.dispatcher.active.Nodup ∧ ∀ id ∈ n.dispatcher.active, id ∈ n.pending) ∧
    (∀ id, Intake.Steps (fun n asked => asked = id → id ∉ n.pending) (.fresh workers) n →
      (id ∈ n.dispatcher.active ↔ id ∈ n.pending)) ∧
    (Intake.Steps (fun n asked => asked ∉ n.pending) (.fresh workers) n →
      n.dispatcher.active.Perm n.pending ∧
      n.dispatcher.status = ⟨n.pending.length, workers, max 0 (workers - n.pending.length)⟩) := by
  refine ⟨?_, ?_, ?_⟩
  · intro steps
    have covered := Intake.covered steps
    refine ⟨List.nodup_iff_count_le_one.mpr covered.once, ?_⟩
    intro id active
    have := List.count_pos_iff.mpr active
    have := covered.pending id
    exact List.count_pos_iff.mp (by omega)
  · intro id steps
    have counts := Intake.count_active (fun n may => may rfl) steps
    rw [← List.count_pos_iff, ← List.count_pos_iff, counts]
  · intro steps
    have same : n.dispatcher.active.Perm n.pending :=
      List.perm_iff_count.mpr fun id => Intake.count_active (fun n may => may) steps
    refine ⟨same, ?_⟩
    rw [Dispatcher.status, same.length_eq, Intake.maxWorkers_eq steps]

/-- One execution whose run has begun. -/
theorem active_iff_pending_running :
    let n : Intake := ⟨{ maxWorkers := 2, active := ["e"] }, [⟨"e", .running⟩]⟩
    Intake.Steps (fun n asked => asked ∉ n.pending) (.fresh 2) n ∧
    n.pending = ["e"] ∧ n.dispatcher.status = ⟨1, 2, 1⟩ := by
  intro n
  have submitted : Intake.Step (fun n asked => asked ∉ n.pending) (.fresh 2)
      ⟨{ maxWorkers := 2, active := ["e"] }, [⟨"e", .queued⟩]⟩ := .submit (by decide) rfl
  have steps := Relation.ReflTransGen.head submitted (.single (.start (i := 0) rfl))
  have reported := (active_iff_pending 2 n).2.2 steps
  exact ⟨steps, rfl, reported.2⟩

/-- An execution that is submitted twice: when the second run is forgotten, the first is still under way,
but it is not reported, and both workers are said to be free. -/
theorem active_misses_running :
    ∃ n : Intake, Intake.Steps (fun _ _ => True) (.fresh 2) n ∧ ⟨"e", .running⟩ ∈ n.submissions ∧
      "e" ∉ n.dispatcher.active ∧ n.dispatcher.status = ⟨0, 2, 2⟩ := by
  let d : Dispatcher := { maxWorkers := 2, active := ["e"] }
  have first : Intake.Step (fun _ _ => True) (.fresh 2) ⟨d, [⟨"e", .queued⟩]⟩ := .submit trivial rfl
  have begun : Intake.Step (fun _ _ => True) ⟨d, [⟨"e", .queued⟩]⟩ ⟨d, [⟨"e", .running⟩]⟩ :=
    .start (i := 0) rfl
  have second : Intake.Step (fun _ _ => True) ⟨d, [⟨"e", .running⟩]⟩
      ⟨d, [⟨"e", .running⟩, ⟨"e", .queued⟩]⟩ := .submit trivial rfl
  let n : Intake := ⟨d, [⟨"e", .running⟩, ⟨"e", .finished⟩]⟩
  have told : Intake.Step (fun _ _ => True) n
      { n.mark 1 "e" .forgotten with dispatcher := d.forget "e" } := .forget rfl
  have rest : Intake.Steps (fun _ _ => True) ⟨d, [⟨"e", .running⟩, ⟨"e", .queued⟩]⟩ n :=
    .head (.start (i := 1) rfl) (.single (.finish (i := 1) rfl))
  refine ⟨_, .head first (.head begun (.head second (rest.tail told))), ?_, ?_, ?_⟩
  · decide
  · decide
  · decide

namespace Intake

/-- An intake that has accepted so many submissions, of which some runs, by number and id, are not
finished and all others are forgotten. -/
structure Shows (n : Intake) (d : Dispatcher) (accepted : Nat) (runs : List (Nat × String)) : Prop where
  dispatcher : n.dispatcher = d
  accepted : n.submissions.length = accepted
  there : ∀ run ∈ runs, ∃ stage, n.submissions[run.1]? = some ⟨run.2, stage⟩ ∧
    (stage = .queued ∨ stage = .running)
  distinct : (runs.map (·.1)).Nodup
  pending : n.pending.Perm (runs.map (·.2))

section

variable {allowed : Intake → String → Prop} {n : Intake} {d d' : Dispatcher} {accepted i : Nat}
  {id : String} {runs runs' : List (Nat × String)}

theorem Shows.perm (h : Shows n d accepted runs) (same : runs.Perm runs') :
    Shows n d accepted runs' where
  dispatcher := h.dispatcher
  accepted := h.accepted
  there := fun run there => h.there run (same.mem_iff.mpr there)
  distinct := (same.map _).nodup_iff.mp h.distinct
  pending := h.pending.trans (same.map _)

theorem Shows.submit (h : Shows n d accepted runs) (may : allowed n id)
    (submitted : d.submit id = .ok d') :
    ∃ n', Step allowed n n' ∧ Shows n' d' (accepted + 1) (runs ++ [(accepted, id)]) := by
  have before : ∀ run ∈ runs, run.1 < accepted := by
    intro run there
    obtain ⟨stage, found, -⟩ := h.there run there
    rw [← h.accepted]
    exact (List.getElem?_eq_some_iff.mp found).1
  rw [← h.dispatcher] at submitted
  refine ⟨_, .submit may submitted, rfl, by simp [h.accepted], ?_, ?_, ?_⟩
  · intro run there
    rcases List.mem_append.mp there with there | new
    · obtain ⟨stage, found, underWay⟩ := h.there run there
      refine ⟨stage, ?_, underWay⟩
      rw [List.getElem?_append_left (List.getElem?_eq_some_iff.mp found).1]
      exact found
    · obtain rfl := List.mem_singleton.mp new
      refine ⟨.queued, ?_, .inl rfl⟩
      rw [← h.accepted]
      exact List.getElem?_concat_length
  · rw [List.map_append, List.nodup_append]
    refine ⟨h.distinct, List.pairwise_singleton _ _, ?_⟩
    intro a ha b hb
    obtain ⟨run, there, rfl⟩ := List.mem_map.mp ha
    obtain rfl := List.mem_singleton.mp hb
    exact Nat.ne_of_lt (before run there)
  · have pending := h.pending.append_right [id]
    simpa [Intake.pending, Submission.pending?] using pending

@[simp] theorem mark_mark (n : Intake) (i : Nat) (id : String) (stage stage' : Stage) :
    (n.mark i id stage).mark i id stage' = n.mark i id stage' := by
  simp [mark]

theorem mark_self {stage : Stage} (turn : n.submissions[i]? = some ⟨id, stage⟩) (stage' : Stage) :
    (n.mark i id stage').submissions[i]? = some ⟨id, stage'⟩ :=
  List.getElem?_set_self (List.getElem?_eq_some_iff.mp turn).1

/-- A submission whose run is not finished may come to be forgotten. -/
theorem steps_forgotten {stage : Stage} (turn : n.submissions[i]? = some ⟨id, stage⟩)
    (unfinished : stage = .queued ∨ stage = .running) :
    Steps allowed n { n.mark i id .forgotten with dispatcher := n.dispatcher.forget id } := by
  have finished : Steps allowed n (n.mark i id .finished) := by
    rcases unfinished with rfl | rfl
    · have begun : Step allowed n (n.mark i id .running) := .start turn
      have ended : Step allowed _ ((n.mark i id .running).mark i id .finished) := .finish (mark_self turn _)
      rw [mark_mark] at ended
      exact .head begun (.single ended)
    · exact .single (.finish turn)
  have told : Step allowed _ _ := .forget (mark_self turn .finished)
  rw [mark_mark] at told
  exact finished.tail told

/-- A run that is not finished may come to be forgotten. -/
theorem Shows.forget (h : Shows n d accepted ((i, id) :: runs)) :
    ∃ n', Steps allowed n n' ∧ Shows n' (d.forget id) accepted runs := by
  obtain ⟨stage, turn, unfinished⟩ := h.there _ List.mem_cons_self
  obtain ⟨other, distinct⟩ := List.nodup_cons.mp h.distinct
  refine ⟨_, steps_forgotten turn unfinished, by rw [h.dispatcher], ?_, ?_, distinct, ?_⟩
  · rw [← h.accepted]
    exact List.length_set
  · intro run there
    obtain ⟨stage, found, underWay⟩ := h.there run (List.mem_cons_of_mem _ there)
    have ne : i ≠ run.1 := by
      intro same
      exact other (List.mem_map.mpr ⟨run, there, same.symm⟩)
    exact ⟨stage, (List.getElem?_set_ne ne).trans found, underWay⟩
  · have was : stage ≠ .forgotten := by
      rcases unfinished with rfl | rfl <;> decide
    exact ((pending_forgotten turn was).symm.trans h.pending).cons_inv

end

end Intake

/-- The number and the id of a run. -/
def Job.run (job : Job) : Nat × String := (job.number, job.id)

namespace Workers

/-- The runs that are not finished: those that wait at the gate, and those that wait for a worker. -/
def unfinished (w : Workers) : List Job := w.waiting ++ w.queued

/-- An intake that shows what the dispatcher has accepted, while some runs are at hand. -/
def ShownBy (n : Intake) (w : Workers) (atHand : List Job) : Prop :=
  n.Shows w.dispatcher w.submitted ((atHand ++ w.unfinished).map (·.run))

section

variable {allowed : Intake → String → Prop} {n : Intake} {w w' : Workers} {job : Job} {jobs : List Job}

/-- A worker that goes on with a run finishes it, or leaves it at the gate. -/
theorem advance_cases (w : Workers) (job : Job) :
    (∃ rehearsal results, w.advance job =
      { w with rehearsal := rehearsal, results := results, dispatcher := w.dispatcher.forget job.id }) ∨
    ∃ rehearsal job', job'.run = job.run ∧
      w.advance job = { w with rehearsal := rehearsal, waiting := w.waiting ++ [job'] } := by
  unfold advance
  simp only
  split
  · exact .inl ⟨_, _, rfl⟩
  · right
    refine ⟨_, _, ?_, rfl⟩
    rfl

variable (allowed)

theorem ShownBy.advance (h : ShownBy n w (job :: jobs)) :
    ∃ n', Intake.Steps allowed n n' ∧ ShownBy n' (w.advance job) jobs := by
  rcases advance_cases w job with ⟨_, _, finished⟩ | ⟨_, job', same, waits⟩
  · rw [finished]
    exact h.forget
  · rw [waits]
    refine ⟨n, .refl, h.perm ?_⟩
    have moved : ((jobs ++ w.waiting) ++ job :: w.queued).Perm (job :: ((jobs ++ w.waiting) ++ w.queued)) :=
      List.perm_middle
    simpa [unfinished, same] using moved.symm.map (·.run)

theorem ShownBy.schedule (h : ShownBy n w jobs) :
    ∃ n', Intake.Steps allowed n n' ∧ ShownBy n' (w.schedule jobs) [] := by
  induction jobs generalizing n w with
  | nil => exact ⟨n, .refl, h⟩
  | cons job jobs ih =>
    rw [Workers.schedule]
    split
    · obtain ⟨n₁, first, shown⟩ := h.advance allowed
      obtain ⟨n₂, rest, shown⟩ := ih shown
      exact ⟨n₂, first.trans rest, shown⟩
    · refine ⟨n, .refl, h.perm ?_⟩
      have moved : (job :: jobs ++ w.unfinished).Perm (w.unfinished ++ job :: jobs) :=
        List.perm_append_comm
      simpa [unfinished] using moved.map (·.run)

theorem ShownBy.submit {id : String} {number : Nat} (h : ShownBy n w []) (may : allowed n id)
    (submitted : w.submit id = .ok (number, w')) :
    ∃ n', Intake.Steps allowed n n' ∧ ShownBy n' w' [] := by
  unfold Workers.submit at submitted
  cases accepted : w.dispatcher.submit id with
  | error failure =>
    rw [accepted] at submitted
    cases submitted
  | ok d =>
    rw [accepted] at submitted
    cases submitted
    obtain ⟨n₁, first, shown⟩ := Intake.Shows.submit h may accepted
    let note := w.rehearsal.tape.write (Dispatcher.submittedNote id)
    let job : Job := ⟨w.submitted, id, runGuarded w.settings id, []⟩
    have atHand : ShownBy n₁
        { w with
          dispatcher := d
          submitted := w.submitted + 1
          rehearsal := { w.rehearsal with tape := note }
          queued := [] } (w.queued ++ [job]) := by
      have moved : (w.waiting ++ (w.queued ++ [job])).Perm ((w.queued ++ [job]) ++ w.waiting) :=
        List.perm_append_comm
      refine shown.perm ?_
      simpa [unfinished, job, Job.run] using moved.map (·.run)
    obtain ⟨n₂, rest, shown⟩ := atHand.schedule allowed
    exact ⟨n₂, .head first rest, shown⟩

theorem ShownBy.openGate (h : ShownBy n w []) :
    ∃ n', Intake.Steps allowed n n' ∧ ShownBy n' w.openGate [] := by
  have atHand : ShownBy n { w with gateClosed := false, waiting := [], queued := [] }
      (w.waiting ++ w.queued) := by
    refine h.perm ?_
    simp [unfinished]
  exact atHand.schedule allowed

theorem ShownBy.shutDown (h : ShownBy n w []) :
    ∃ n', Intake.Steps allowed n n' ∧ ShownBy n' w.shutDown [] := by
  obtain ⟨n', steps, shown⟩ := h.openGate allowed
  refine ⟨_, steps.tail .shutDown, ?_⟩
  exact ⟨congrArg Dispatcher.shutDown shown.dispatcher, shown.accepted, shown.there, shown.distinct,
    shown.pending⟩

end

/-- What can be done with workers: an execution is submitted, where that is allowed, the gate is closed
or opened, or the dispatcher is shut down. -/
inductive Use (allowed : Workers → String → Prop) : Workers → Workers → Prop
  | submit {w id number w'} (may : allowed w id) (accepted : w.submit id = .ok (number, w')) :
      Use allowed w w'
  | closeGate (w) : Use allowed w w.closeGate
  | openGate (w) : Use allowed w w.openGate
  | shutDown (w) : Use allowed w w.shutDown

section

variable {allowed : Intake → String → Prop} {mayUse : Workers → String → Prop} {w w' : Workers}

theorem ShownBy.use {n : Intake} (h : ShownBy n w []) (same : ∀ id, mayUse w id → allowed n id)
    (use : Use mayUse w w') : ∃ n', Intake.Steps allowed n n' ∧ ShownBy n' w' [] := by
  cases use with
  | submit may accepted => exact h.submit allowed (same _ may) accepted
  | closeGate => exact ⟨n, .refl, h⟩
  | openGate => exact h.openGate allowed
  | shutDown => exact h.shutDown allowed

/-- Whatever is done with workers, an intake shows what their dispatcher has accepted. -/
theorem shown (settings : EngineSettings) (workers : Int) (r : Rehearsal)
    (same : ∀ n w id, ShownBy n w [] → mayUse w id → allowed n id)
    (uses : Relation.ReflTransGen (Use mayUse) (.start settings { maxWorkers := workers } r) w) :
    ∃ n, Intake.Steps allowed (.fresh workers) n ∧ ShownBy n w [] := by
  induction uses with
  | refl => exact ⟨.fresh workers, .refl, rfl, rfl, List.forall_mem_nil _, List.nodup_nil, .refl _⟩
  | tail _ use ih =>
    obtain ⟨n, steps, shown⟩ := ih
    obtain ⟨n', further, shown⟩ := shown.use (fun id => same n _ id shown) use
    exact ⟨n', steps.trans further, shown⟩

end

/-- The dispatcher reports each of the workers' unfinished runs by its id, as long as no id is submitted
again while a run of it is unfinished. -/
theorem active_perm_unfinished (settings : EngineSettings) (workers : Int) (r : Rehearsal) {w : Workers}
    (uses : Relation.ReflTransGen (Use fun w asked => asked ∉ w.unfinished.map (·.id))
      (.start settings { maxWorkers := workers } r) w) :
    w.dispatcher.active.Perm (w.unfinished.map (·.id)) := by
  have ids : ∀ n w, ShownBy n w [] → n.pending.Perm (w.unfinished.map (·.id)) := by
    intro n w shown
    have pending := shown.pending
    rw [List.map_map] at pending
    exact pending
  have kept : ∀ n w id, ShownBy n w [] → id ∉ w.unfinished.map (·.id) → id ∉ n.pending :=
    fun n w id shown may pending => may ((ids n w shown).mem_iff.mp pending)
  obtain ⟨n, steps, shown⟩ := shown settings workers r kept uses
  have same : n.dispatcher.active.Perm n.pending :=
    List.perm_iff_count.mpr fun id => Intake.count_active (fun n may => may) steps
  rw [← shown.dispatcher]
  exact same.trans (ids n w shown)

end Workers
end Automation
