import Automation.Proofs.Interleaving
import Automation.Proofs.Traffic

/-!
Calls on a dispatcher come to an end. Callers wait for the lock and workers for tickets, but as long as
something is left to be done, somebody can do it; and whoever does it, it is done after finitely many steps,
unless somebody calls again.
-/
namespace Automation

theorem exists_answer (c : Call) : Nonempty c.Answer := by
  cases c <;> exact ⟨default⟩

namespace Crew

variable {settings : EngineSettings} {c c' : Crew}

/-- Workers that cannot go on have nothing to do. -/
theorem idle_of_stuck (enough : 0 < c.workers) (stuck : ∀ c', ¬c.Works settings c') : c.Idle := by
  have running : c.running = [] := by
    cases running : c.running with
    | nil => rfl
    | cons job rest =>
      obtain ⟨ticket, p⟩ := job
      cases p with
      | done => exact absurd (.finish (show _ = [] ++ _ :: rest from running)) (stuck _)
      | call call next =>
        obtain ⟨answer⟩ := exists_answer call
        exact absurd (.goOn (show _ = [] ++ _ :: rest from running) answer) (stuck _)
  refine ⟨?_, running⟩
  cases queue : c.queue with
  | nil => rfl
  | cons ticket rest =>
    have free : (c.running.length : Int) < c.workers := by simpa [running] using enough
    exact absurd (.start (show _ = [] ++ ticket :: rest from queue) free) (stuck _)

theorem Works.workers (works : c.Works settings c') : c'.workers = c.workers := by
  cases works <;> rfl

/-- What runs are still to do. -/
def rest (c : Crew) : List (Proc (Option Execution)) := c.running.map (·.2)

/-- How many tickets are still to be begun with, finished and forgotten, each of them with a weight. -/
def toGo (c : Crew) (forgotten : List Ticket) : Nat :=
  3 * c.queue.length + 2 * c.running.length + (c.finished.filter (· ∉ forgotten)).length

theorem oneFollows_append {ps' ps : List (Proc (Option Execution))} (goesOn : Pool.OneFollows ps' ps)
    (front : List (Proc (Option Execution))) : Pool.OneFollows (front ++ ps') (front ++ ps) := by
  induction front with
  | nil => exact goesOn
  | cons p front ih => exact .tail ih

/-- A worker that begins or finishes has less to do, and one that goes on with a run brings the run nearer
to its end. -/
theorem Works.nearer (works : c.Works settings c') (forgotten : List Ticket) :
    c'.toGo forgotten < c.toGo forgotten ∨
      c'.toGo forgotten = c.toGo forgotten ∧ Pool.OneFollows c'.rest c.rest := by
  cases works with
  | start waits free =>
    left
    simp only [toGo, waits, List.length_append, List.length_cons, List.length_nil]
    omega
  | goOn turn answer =>
    right
    simp only [toGo, rest, turn, List.length_append, List.length_cons, List.map_append, List.map_cons,
      true_and]
    exact oneFollows_append (.head (.answered answer)) _
  | @finish front ticket result back turn =>
    left
    have one : ([ticket].filter (· ∉ forgotten)).length ≤ 1 := List.length_filter_le _ _
    simp only [toGo, turn, List.filter_append, List.length_append, List.length_cons]
    omega

/-- One ticket less is to be forgotten when it is. -/
theorem toGo_forget {forgotten : List Ticket} {ticket : Ticket} (ended : ticket ∈ c.finished)
    (new : ticket ∉ forgotten) : c.toGo (forgotten ++ [ticket]) < c.toGo forgotten := by
  have left : c.finished.filter (· ∉ forgotten ++ [ticket]) =
      (c.finished.filter (· ∉ forgotten)).filter (· ≠ ticket) := by
    rw [List.filter_filter]
    refine List.filter_congr fun other _ => ?_
    simp [and_comm]
  have fewer : ((c.finished.filter (· ∉ forgotten)).filter (· ≠ ticket)).length <
      (c.finished.filter (· ∉ forgotten)).length :=
    List.length_filter_lt_length_iff_exists.mpr ⟨ticket, by simp [ended, new], by simp⟩
  rw [← left] at fewer
  simp only [toGo]
  omega

end Crew

/-- How many steps a call has still to make, where handing a ticket over counts for what the workers do
with it. -/
def Stand.toGo : Stand → Nat
  | .asks _ => 8
  | .inside _ => 7
  | .cleared _ => 6
  | .handed _ => 2
  | .entered _ => 1
  | .closes _ => 3
  | .flagged _ => 2
  | .closed _ => 1
  | _ => 0

/-- A caller that goes on brings its call nearer to its end. -/
theorem Desk.Deals.nearer {i : Nat} {s s' : Stand} {k k' : Desk} (deals : k.Deals i s k' s')
    (forgotten : List Ticket) :
    k'.crew.toGo forgotten + s'.toGo < k.crew.toGo forgotten + s.toGo := by
  cases deals with
  | hand taken =>
    obtain ⟨-, rfl⟩ := Crew.take_eq_ok_iff.mp taken
    simp only [Crew.toGo, Stand.toGo, List.length_append, List.length_singleton]
    omega
  | _ => simp [Stand.toGo, Crew.shutDown, Crew.toGo]

namespace Traffic

variable {settings : EngineSettings} {t t' : Traffic} {actor : Option Nat} {i : Nat} {s s' : Stand}

/-- All calls are over, and the workers have nothing to do. -/
structure Settled (t : Traffic) : Prop where
  ended : ∀ s ∈ t.callers, s.Over
  idle : t.desk.crew.Idle

/-- Where no caller can go on, nobody has the lock. -/
theorem Sound.free_of_stuck (h : Sound t)
    (stuck : ∀ i s desk s', t.callers[i]? = some s → ¬t.desk.Deals i s desk s') : t.desk.holder = none := by
  cases held : t.desk.holder with
  | none => rfl
  | some i =>
    obtain ⟨s, at_, holds⟩ := h.held i held
    cases holds with
    | inside id =>
      cases asked : t.desk.dispatcher.submit id with
      | error failure => exact absurd (.refuse asked) (stuck i _ _ _ at_)
      | ok d => exact absurd (.pass asked) (stuck i _ _ _ at_)
    | cleared id =>
      cases handed : t.desk.crew.take ⟨i, id⟩ with
      | error failure => exact absurd (.reject handed) (stuck i _ _ _ at_)
      | ok crew => exact absurd (.hand handed) (stuck i _ _ _ at_)
    | handed id => exact absurd .enter (stuck i _ _ _ at_)

/-- Where neither caller nor worker can go on, there is nothing left to do. -/
theorem Sound.settled_of_stuck (h : Sound t) (enough : 0 < t.desk.crew.workers)
    (stuck : ∀ actor t', Step settings actor t t' → t.callers.length < t'.callers.length) : t.Settled := by
  have idle : t.desk.crew.Idle := by
    have works : ∀ crew, ¬t.desk.crew.Works settings crew :=
      fun crew works => absurd (stuck _ _ (.work works)) (Nat.lt_irrefl _)
    exact Crew.idle_of_stuck enough works
  have deals : ∀ i s desk s', t.callers[i]? = some s → ¬t.desk.Deals i s desk s' := by
    intro i s desk s' turn deals
    have longer := stuck _ _ (.deal turn deals)
    rw [List.length_set] at longer
    exact Nat.lt_irrefl _ longer
  have free : t.desk.holder = none := h.free_of_stuck deals
  refine ⟨fun s there => ?_, idle⟩
  obtain ⟨i, at_⟩ := List.mem_iff_getElem?.mp there
  have fits := h.fits i s at_
  have none_ : t.desk.holder ≠ some i := by simp [free]
  cases s with
  | asks => exact absurd (.acquire free) (deals i _ _ _ at_)
  | inside => exact absurd fits none_
  | cleared | handed => exact absurd fits.1 none_
  | rejected => exact fits.elim
  | entered => exact absurd .attach (deals i _ _ _ at_)
  | closes => exact absurd (.flag free) (deals i _ _ _ at_)
  | flagged => exact absurd .close (deals i _ _ _ at_)
  | closed => exact absurd (.leave fun _ => idle) (deals i _ _ _ at_)
  | refused | served | left => constructor

/-- The steps still to be made by callers and workers, besides those that a run makes. -/
def toGo (t : Traffic) : Nat := t.callers.foldr (·.toGo + ·) 0 + t.desk.crew.toGo t.forgotten

theorem foldr_toGo_set {callers : List Stand} (turn : callers[i]? = some s) (s' : Stand) :
    (callers.set i s').foldr (·.toGo + ·) 0 + s.toGo = callers.foldr (·.toGo + ·) 0 + s'.toGo := by
  induction callers generalizing i with
  | nil => simp at turn
  | cons first rest ih =>
    cases i with
    | zero =>
      obtain rfl : first = s := by simpa using turn
      simp only [List.set_cons_zero, List.foldr_cons]
      omega
    | succ i =>
      have others := ih (by simpa using turn)
      simp only [List.set_cons_succ, List.foldr_cons]
      omega

/-- Every step but a new call brings all calls and runs nearer to their ends. -/
theorem Step.nearer (step : Step settings actor t t') (same : t'.callers.length = t.callers.length) :
    t'.toGo < t.toGo ∨ t'.toGo = t.toGo ∧ Pool.OneFollows t'.desk.crew.rest t.desk.crew.rest := by
  cases step with
  | call =>
    rw [List.length_append, List.length_singleton] at same
    omega
  | @deal _ i s desk s' turn deals =>
    left
    have sums := foldr_toGo_set turn s'
    have less := deals.nearer t.forgotten
    simp only [toGo]
    omega
  | work works =>
    rcases works.nearer t.forgotten with less | ⟨same, follows⟩
    · exact .inl (Nat.add_lt_add_left less _)
    · exact .inr ⟨congrArg (_ + ·) same, follows⟩
  | forget ended asked new free => exact .inl (Nat.add_lt_add_left (Crew.toGo_forget ended new) _)

/-- However callers and workers take turns, they come to an end, unless somebody calls again. -/
theorem acc_step (settings : EngineSettings) (t : Traffic) :
    Acc (fun after before => after.callers.length = before.callers.length ∧
      ∃ actor, Step settings actor before after) t := by
  refine Subrelation.accessible ?_ (InvImage.accessible (fun t => (t.toGo, t.desk.crew.rest))
    (Prod.lexAccessible (Nat.lt_wfRel.wf.apply _) Pool.acc_oneFollows _))
  rintro after before ⟨same, actor, step⟩
  exact Prod.lex_def.mpr (step.nearer same)

theorem Step.workers (step : Step settings actor t t') : t'.desk.crew.workers = t.desk.crew.workers := by
  cases step with
  | call | forget => rfl
  | work works => exact works.workers
  | deal turn deals =>
    cases deals with
    | hand taken =>
      obtain ⟨-, rfl⟩ := Crew.take_eq_ok_iff.mp taken
      rfl
    | _ => rfl

theorem Steps.workers (steps : Steps settings t t') : t'.desk.crew.workers = t.desk.crew.workers := by
  induction steps with
  | refl => rfl
  | tail _ step ih =>
    obtain ⟨_, step⟩ := step
    rw [step.workers, ih]

/-- Calls on a dispatcher with workers come to an end, however they were interleaved so far: unless somebody
calls again, callers and workers make finitely many steps only, whichever they make; and where none of them
can make a step any more, all calls are over, and all that was accepted was run once. -/
theorem calls_come_to_an_end (settings : EngineSettings) {workers : Int} {d : Dispatcher} {t : Traffic}
    (created : Dispatcher.create workers = .ok d) (steps : Steps settings (opening d) t) :
    Acc (fun after before => after.callers.length = before.callers.length ∧
      ∃ actor, Step settings actor before after) t ∧
    ((∀ actor t', Step settings actor t t' → t.callers.length < t'.callers.length) →
      t.Settled ∧ t.desk.crew.begun.Perm t.tickets ∧ t.desk.crew.finished.Perm t.tickets) := by
  have enough : 0 < t.desk.crew.workers := by
    rw [steps.workers]
    unfold Dispatcher.create at created
    split at created
    · cases created
    · cases created
      show 0 < workers
      omega
  have h : Sound t := steps.sound (sound_opening d)
  refine ⟨acc_step settings t, fun stuck => ?_⟩
  have settled := h.settled_of_stuck enough stuck
  obtain ⟨queue, running⟩ := settled.idle
  refine ⟨settled, List.perm_iff_count.mpr fun ticket => ?_, List.perm_iff_count.mpr fun ticket => ?_⟩
  · simpa [queue] using h.begun ticket
  · simpa [Crew.tickets, Crew.atWork, queue, running] using h.filed ticket

end Traffic
end Automation
