import Automation.Run.Dispatcher
import Mathlib.Data.List.Sigma
import Mathlib.Logic.Relation

/-!
Calls on a dispatcher by any number of callers, and the workers that carry out what it accepts, step by
step. A submission is made under a lock: it looks at the flag, hands the id to the workers and enters it
among the active ones. A shutdown sets the flag under the lock, and shuts the workers down without it. So
whoever has found the flag unset hands over before the workers are shut down, and whatever is handed over
waits, is carried out, or is over.
-/
namespace Automation

/-- An id that is handed over to be run, and who submitted it. -/
structure Ticket where
  caller : Nat
  id : String
  deriving DecidableEq, Repr

/-- The workers behind a dispatcher: the tickets that wait, those that are carried out with what is left
to be done, and those that are over. -/
structure Crew where
  workers : Int
  queue : List Ticket := []
  running : List (Ticket × Proc (Option Execution)) := []
  finished : List Ticket := []
  /-- The tickets whose ids were given to the engine to be run, each as often as it was. -/
  begun : List Ticket := []
  isShutDown : Bool := false

namespace Crew

/-- Takes a ticket. A crew that is shut down takes none. -/
def take (c : Crew) (ticket : Ticket) : Except Failure Crew :=
  if c.isShutDown then .error (.reported "RuntimeError" "cannot schedule new futures after shutdown")
  else .ok { c with queue := c.queue ++ [ticket] }

/-- What was taken before is still carried out. -/
def shutDown (c : Crew) : Crew := { c with isShutDown := true }

/-- The tickets that are carried out. -/
def atWork (c : Crew) : List Ticket := c.running.map (·.1)

/-- All tickets that a crew has. -/
def tickets (c : Crew) : List Ticket := c.queue ++ c.atWork ++ c.finished

/-- Nothing waits, and nothing is carried out. -/
def Idle (c : Crew) : Prop := c.queue = [] ∧ c.running = []

/-- What workers do: one that is free begins with a ticket, one goes on when a call of its run is
answered, whatever the answer, one is over with its run. -/
inductive Works (settings : EngineSettings) : Crew → Crew → Prop
  | start {c front ticket back} (waits : c.queue = front ++ ticket :: back)
      (free : (c.running.length : Int) < c.workers) :
      Works settings c { c with
        queue := front ++ back
        running := c.running ++ [(ticket, runGuarded settings ticket.id)]
        begun := c.begun ++ [ticket] }
  | goOn {c front ticket call next back} (turn : c.running = front ++ (ticket, .call call next) :: back)
      (answer : call.Answer) :
      Works settings c { c with running := front ++ (ticket, next answer) :: back }
  | finish {c front ticket result back} (turn : c.running = front ++ (ticket, .done result) :: back) :
      Works settings c { c with running := front ++ back, finished := c.finished ++ [ticket] }

section

variable {settings : EngineSettings} {c c' : Crew} {ticket : Ticket}

theorem take_eq_ok_iff : c.take ticket = .ok c' ↔
    c.isShutDown = false ∧ { c with queue := c.queue ++ [ticket] } = c' := by
  unfold take
  cases c.isShutDown <;> simp

/-- Workers lose no ticket and make none up. -/
theorem Works.count_tickets (works : c.Works settings c') (ticket : Ticket) :
    c'.tickets.count ticket = c.tickets.count ticket := by
  cases works with
  | start waits free =>
    simp only [tickets, atWork, waits, List.map_append, List.map_cons, List.map_nil, List.count_append,
      List.count_cons, List.count_nil]
    omega
  | goOn turn answer => simp [tickets, atWork, turn]
  | finish turn =>
    simp only [tickets, atWork, turn, List.map_append, List.map_cons, List.count_append, List.count_cons,
      List.count_nil]
    omega

/-- A ticket is begun with as often as it leaves the queue. -/
theorem Works.count_begun (works : c.Works settings c') (ticket : Ticket) :
    c'.begun.count ticket + c'.queue.count ticket = c.begun.count ticket + c.queue.count ticket := by
  cases works with
  | start waits free =>
    simp only [waits, List.count_append, List.count_cons, List.count_nil]
    omega
  | goOn | finish => rfl

theorem Works.isShutDown (works : c.Works settings c') : c'.isShutDown = c.isShutDown := by
  cases works <;> rfl

theorem Works.not_idle (works : c.Works settings c') : ¬c.Idle := by
  rintro ⟨queue, running⟩
  cases works with
  | start waits => simp [queue] at waits
  | goOn turn | finish turn => simp [running] at turn

end
end Crew

/-- Puts an id among the active ones. -/
def Dispatcher.enter (d : Dispatcher) (id : String) : Dispatcher :=
  { d with active := if d.active.contains id then d.active else d.active ++ [id] }

theorem Dispatcher.submit_eq (d : Dispatcher) (id : String) :
    d.submit id = if d.isShutDown then .error (refusal id) else .ok (d.enter id) := rfl

/-- How far a call on the dispatcher has come. -/
inductive Stand where
  /-- A submission waits for the lock. -/
  | asks (id : String)
  /-- It has the lock. -/
  | inside (id : String)
  /-- It has given the lock back and ends with a failure. -/
  | refused (id : String) (failure : Failure)
  /-- It has found the flag unset. -/
  | cleared (id : String)
  /-- The workers have taken its id. -/
  | handed (id : String)
  /-- The workers have not taken its id, and it ends with their failure. -/
  | rejected (id : String) (failure : Failure)
  /-- Its id is active, and it has given the lock back. -/
  | entered (id : String)
  /-- It has asked to be told when the run is over, and ends well. -/
  | served (id : String)
  /-- A shutdown waits for the lock. It may be one that waits for all runs. -/
  | closes (waits : Bool)
  /-- It has set the flag. -/
  | flagged (waits : Bool)
  /-- It has shut the workers down. -/
  | closed (waits : Bool)
  /-- It is over. -/
  | left (waits : Bool)

namespace Stand

/-- The ticket that a caller has handed over. -/
def tickets (i : Nat) : Stand → List Ticket
  | .handed id | .entered id | .served id => [⟨i, id⟩]
  | _ => []

theorem caller_of_mem {i : Nat} {s : Stand} {ticket : Ticket} (there : ticket ∈ s.tickets i) :
    ticket.caller = i := by
  cases s <;> simp [tickets] at there <;> rw [there]

/-- Where calls begin. -/
inductive Opening : Stand → Prop
  | submission (id : String) : Opening (.asks id)
  | shutdown (waits : Bool) : Opening (.closes waits)

/-- Where a submission is that has not been let through. -/
inductive Outside : Stand → Prop
  | asks (id : String) : Outside (.asks id)
  | inside (id : String) : Outside (.inside id)
  | refused (id : String) (failure : Failure) : Outside (.refused id failure)

/-- A call that is over. -/
inductive Over : Stand → Prop
  | refused (id : String) (failure : Failure) : Over (.refused id failure)
  | served (id : String) : Over (.served id)
  | left (waits : Bool) : Over (.left waits)

/-- Where a submission is that has the lock. -/
inductive Holds : Stand → Prop
  | inside (id : String) : Holds (.inside id)
  | cleared (id : String) : Holds (.cleared id)
  | handed (id : String) : Holds (.handed id)

end Stand

/-- What callers share: the dispatcher, its workers, and the lock with whoever has it. -/
structure Desk where
  dispatcher : Dispatcher
  crew : Crew
  holder : Option Nat := none

/-- What a caller does next. -/
inductive Desk.Deals (i : Nat) : Desk → Stand → Desk → Stand → Prop
  | acquire {k id} (free : k.holder = none) :
      Deals i k (.asks id) { k with holder := some i } (.inside id)
  | refuse {k id failure} (refused : k.dispatcher.submit id = .error failure) :
      Deals i k (.inside id) { k with holder := none } (.refused id failure)
  | pass {k id d} (accepted : k.dispatcher.submit id = .ok d) :
      Deals i k (.inside id) k (.cleared id)
  | hand {k id crew} (taken : k.crew.take ⟨i, id⟩ = .ok crew) :
      Deals i k (.cleared id) { k with crew := crew } (.handed id)
  | reject {k id failure} (rejected : k.crew.take ⟨i, id⟩ = .error failure) :
      Deals i k (.cleared id) { k with holder := none } (.rejected id failure)
  | enter {k id} :
      Deals i k (.handed id) { k with dispatcher := k.dispatcher.enter id, holder := none } (.entered id)
  | attach {k id} : Deals i k (.entered id) k (.served id)
  | flag {k waits} (free : k.holder = none) :
      Deals i k (.closes waits) { k with dispatcher := k.dispatcher.shutDown } (.flagged waits)
  | close {k waits} : Deals i k (.flagged waits) { k with crew := k.crew.shutDown } (.closed waits)
  | leave {k waits} (idle : waits = true → k.crew.Idle) :
      Deals i k (.closed waits) k (.left waits)

/-- Callers, each as far as it has come, and what they share. -/
structure Traffic where
  desk : Desk
  callers : List Stand := []
  /-- The tickets of which the dispatcher was told that they are over. -/
  forgotten : List Ticket := []

namespace Traffic

/-- A dispatcher that nobody has called yet. -/
def opening (d : Dispatcher) : Traffic :=
  { desk := { dispatcher := d, crew := { workers := d.maxWorkers } } }

/-- The tickets of the submissions that the workers have accepted. -/
def tickets (t : Traffic) : List Ticket := t.callers.zipIdx.flatMap fun (s, i) => s.tickets i

/-- A step of a caller, or of none: somebody calls, a caller or a worker goes on, or the dispatcher is told
under the lock that a run is over, once it was asked to be told. -/
inductive Step (settings : EngineSettings) : Option Nat → Traffic → Traffic → Prop
  | call {t s} (opens : s.Opening) :
      Step settings (some t.callers.length) t { t with callers := t.callers ++ [s] }
  | deal {t i s desk s'} (turn : t.callers[i]? = some s) (deals : t.desk.Deals i s desk s') :
      Step settings (some i) t { t with desk := desk, callers := t.callers.set i s' }
  | work {t crew} (works : t.desk.crew.Works settings crew) :
      Step settings none t { t with desk := { t.desk with crew := crew } }
  | forget {t ticket} (ended : ticket ∈ t.desk.crew.finished)
      (asked : t.callers[ticket.caller]? = some (.served ticket.id)) (new : ticket ∉ t.forgotten)
      (free : t.desk.holder = none) :
      Step settings none t { t with
        desk := { t.desk with dispatcher := t.desk.dispatcher.forget ticket.id }
        forgotten := t.forgotten ++ [ticket] }

/-- Any number of steps of any callers and workers, in any order. -/
abbrev Steps (settings : EngineSettings) : Traffic → Traffic → Prop :=
  Relation.ReflTransGen fun t t' => ∃ actor, Step settings actor t t'

/-- A step that was made. -/
structure Turn where
  actor : Option Nat
  before : Traffic
  after : Traffic

/-- The steps that led from one state to another, in order. -/
inductive Leads (settings : EngineSettings) (first : Traffic) : List Turn → Traffic → Prop
  | refl : Leads settings first [] first
  | snoc {turns actor t t'} (leads : Leads settings first turns t) (step : Step settings actor t t') :
      Leads settings first (turns ++ [⟨actor, t, t'⟩]) t'

end Traffic

/-- What a caller that has come so far relies on: that it has the lock, and that the flag is as it found it;
that the flag is set, or the workers are shut down; that they have not rejected it; and if it waited for
all runs, that they are over. -/
def Stand.Fits (i : Nat) (k : Desk) : Stand → Prop
  | .inside _ => k.holder = some i
  | .cleared _ | .handed _ => k.holder = some i ∧ k.dispatcher.isShutDown = false
  | .refused id failure => failure = Dispatcher.refusal id
  | .rejected _ _ => False
  | .flagged _ => k.dispatcher.isShutDown = true
  | .closed _ => k.crew.isShutDown = true
  | .left waits => k.crew.isShutDown = true ∧ (waits = true → k.crew.Idle)
  | _ => True

namespace Desk

/-- A desk after which a caller finds all that it may rely on. -/
structure Spares (i : Nat) (k k' : Desk) : Prop where
  lock : k.holder = some i → k'.holder = some i ∧ k'.dispatcher.isShutDown = k.dispatcher.isShutDown
  flag : k.dispatcher.isShutDown = true → k'.dispatcher.isShutDown = true
  shut : k.crew.isShutDown = true → k'.crew.isShutDown = true
  idle : k.crew.isShutDown = true → k.crew.Idle → k'.crew.Idle

section

variable {settings : EngineSettings} {i j : Nat} {k k' : Desk} {s s' : Stand} {crew : Crew}

theorem Spares.fits (h : Spares i k k') (fits : s.Fits i k) : s.Fits i k' := by
  cases s with
  | inside => exact (h.lock fits).1
  | cleared | handed =>
    obtain ⟨lock, flag⟩ := h.lock fits.1
    exact ⟨lock, flag.trans fits.2⟩
  | flagged => exact h.flag fits
  | closed => exact h.shut fits
  | left => exact ⟨h.shut fits.1, fun waits => h.idle fits.1 (fits.2 waits)⟩
  | _ => exact fits

/-- Workers spare all callers. -/
theorem spares_works (works : k.crew.Works settings crew) : Spares i k { k with crew := crew } where
  lock := fun lock => ⟨lock, rfl⟩
  flag := id
  shut := works.isShutDown.trans
  idle := fun _ idle => absurd idle works.not_idle

theorem spares_forget (id : String) : Spares i k { k with dispatcher := k.dispatcher.forget id } where
  lock := fun lock => ⟨lock, rfl⟩
  flag := fun flag => flag
  shut := fun shut => shut
  idle := fun _ idle => idle

/-- A caller that goes on spares all others, and the lock is what makes it so. -/
theorem Deals.spares (deals : k.Deals i s k' s') (fits : s.Fits i k) (ne : i ≠ j) : Spares j k k' := by
  have others : k.holder = some i → k.holder ≠ some j := by
    intro mine theirs
    exact ne (Option.some.inj (mine.symm.trans theirs))
  cases deals with
  | acquire free => exact ⟨fun lock => absurd (free.symm.trans lock) nofun, id, id, fun _ => id⟩
  | refuse => exact ⟨fun lock => absurd lock (others fits), id, id, fun _ => id⟩
  | reject | enter => exact ⟨fun lock => absurd lock (others fits.1), id, id, fun _ => id⟩
  | hand taken =>
    obtain ⟨unset, rfl⟩ := Crew.take_eq_ok_iff.mp taken
    exact ⟨fun lock => ⟨lock, rfl⟩, id, id, fun shut => absurd (unset.symm.trans shut) nofun⟩
  | flag free => exact ⟨fun lock => absurd (free.symm.trans lock) nofun, fun _ => rfl, id, fun _ => id⟩
  | close => exact ⟨fun lock => ⟨lock, rfl⟩, id, fun _ => rfl, fun _ => id⟩
  | pass | attach | leave => exact ⟨fun lock => ⟨lock, rfl⟩, id, id, fun _ => id⟩

/-- The workers are not shut down before the flag is set. -/
def Ordered (k : Desk) : Prop := k.crew.isShutDown = true → k.dispatcher.isShutDown = true

/-- A caller that goes on finds what it relies on. What it has found out under the lock still holds when it
acts on it. -/
theorem Deals.fits (deals : k.Deals i s k' s') (fits : s.Fits i k) (ordered : k.Ordered) :
    s'.Fits i k' := by
  cases deals with
  | acquire | flag | close => rfl
  | refuse refused =>
    rw [Dispatcher.submit_eq] at refused
    split at refused
    · cases refused
      rfl
    · cases refused
  | pass accepted =>
    rw [Dispatcher.submit_eq] at accepted
    split at accepted
    · cases accepted
    · rename_i unset
      exact ⟨fits, eq_false_of_ne_true unset⟩
  | hand => exact fits
  | reject rejected =>
    have shut : k.crew.isShutDown = true := by
      by_contra unset
      rw [Crew.take, if_neg unset] at rejected
      cases rejected
    exact absurd (fits.2.symm.trans (ordered shut)) nofun
  | enter | attach => trivial
  | leave idle => exact ⟨fits, idle⟩

theorem Deals.ordered (deals : k.Deals i s k' s') (fits : s.Fits i k) (ordered : k.Ordered) :
    k'.Ordered := by
  cases deals with
  | hand taken =>
    obtain ⟨-, rfl⟩ := Crew.take_eq_ok_iff.mp taken
    exact ordered
  | flag => exact fun _ => rfl
  | close => exact fun _ => fits
  | _ => exact ordered

/-- The workers get the ticket of a caller when it hands it over, and at no other step of it. -/
theorem Deals.counts (deals : k.Deals i s k' s') (ticket : Ticket) :
    k'.crew.tickets.count ticket + (s.tickets i).count ticket =
      k.crew.tickets.count ticket + (s'.tickets i).count ticket ∧
    k'.crew.begun.count ticket + k'.crew.queue.count ticket + (s.tickets i).count ticket =
      k.crew.begun.count ticket + k.crew.queue.count ticket + (s'.tickets i).count ticket := by
  cases deals with
  | hand taken =>
    obtain ⟨-, rfl⟩ := Crew.take_eq_ok_iff.mp taken
    simp only [Crew.tickets, Crew.atWork, Stand.tickets, List.count_append, List.count_nil]
    omega
  | _ => exact ⟨rfl, rfl⟩

/-- A caller that is not let through leaves everything as it was but the lock. -/
theorem Deals.outside (deals : k.Deals i s k' s') (outside : s'.Outside) :
    s.Outside ∧ k'.dispatcher = k.dispatcher ∧ k'.crew = k.crew := by
  cases deals <;> cases outside <;> exact ⟨by constructor, rfl, rfl⟩

/-- What a submission does to the active ids is done in one go with looking at the flag. -/
theorem Deals.submit {id : String} (deals : k.Deals i (.handed id) k' s')
    (fits : (Stand.handed id).Fits i k) :
    k.dispatcher.submit id = .ok k'.dispatcher := by
  cases deals with
  | enter => rw [Dispatcher.submit_eq, if_neg (Bool.eq_false_iff.mp fits.2)]

/-- Whoever has the lock after a caller went on is that caller, or had the lock before. -/
theorem Deals.holder (deals : k.Deals i s k' s') (fits : s.Fits i k) (held : k'.holder = some j) :
    i = j ∧ s'.Holds ∨ ¬s.Holds ∧ k.holder = some j := by
  cases deals with
  | acquire => exact .inl ⟨Option.some.inj held, .inside _⟩
  | pass => exact .inl ⟨Option.some.inj (fits.symm.trans held), .cleared _⟩
  | hand => exact .inl ⟨Option.some.inj (fits.1.symm.trans held), .handed _⟩
  | refuse | reject | enter => cases held
  | attach | flag | close | leave => exact .inr ⟨nofun, held⟩

end
end Desk

namespace Traffic

variable {settings : EngineSettings} {t t' : Traffic} {turns : List Turn} {actor : Option Nat}
  {i j : Nat} {s s' other : Stand}

/-- Of the callers after a step of one of them, one is that caller gone on, the others are as they were. -/
theorem caller_of_set (there : (t.callers.set i s')[j]? = some other) :
    i = j ∧ other = s' ∨ i ≠ j ∧ t.callers[j]? = some other := by
  rw [List.getElem?_set] at there
  split at there
  · split at there
    · exact .inl ⟨‹_›, (Option.some.inj there).symm⟩
    · cases there
  · exact .inr ⟨‹_›, there⟩

/-- After another call was made, each caller is as it was, or is the new one. -/
theorem caller_of_call (there : (t.callers ++ [s])[j]? = some other) :
    t.callers[j]? = some other ∨ j = t.callers.length ∧ other = s := by
  rw [List.getElem?_append] at there
  split at there
  · exact .inl there
  · rw [List.getElem?_singleton] at there
    split at there
    · exact .inr ⟨by omega, (Option.some.inj there).symm⟩
    · cases there

theorem caller_call (there : t.callers[j]? = some other) (s : Stand) :
    (t.callers ++ [s])[j]? = some other :=
  (List.getElem?_append_left (List.getElem?_eq_some_iff.mp there).1).trans there

theorem mem_tickets {ticket : Ticket} :
    ticket ∈ t.tickets ↔ ∃ s, t.callers[ticket.caller]? = some s ∧ ticket ∈ s.tickets ticket.caller := by
  simp only [tickets, List.mem_flatMap, Prod.exists, List.mem_zipIdx_iff_getElem?]
  constructor
  · rintro ⟨s, i, at_, there⟩
    obtain rfl := Stand.caller_of_mem there
    exact ⟨s, at_, there⟩
  · rintro ⟨s, at_, there⟩
    exact ⟨s, ticket.caller, at_, there⟩

/-- No ticket is handed over twice. -/
theorem nodup_tickets (t : Traffic) : t.tickets.Nodup := by
  rw [tickets, List.nodup_flatMap]
  constructor
  · rintro ⟨s, i⟩ -
    cases s <;> simp [Stand.tickets]
  · have distinct := List.nodup_zipIdx_map_snd t.callers
    rw [List.Nodup, List.pairwise_map] at distinct
    refine distinct.imp fun ne ticket here there => ?_
    exact ne ((Stand.caller_of_mem here).symm.trans (Stand.caller_of_mem there))

theorem count_tickets_set (turn : t.callers[i]? = some s) (t' : Traffic)
    (after : t'.callers = t.callers.set i s') (ticket : Ticket) :
    t'.tickets.count ticket + (s.tickets i).count ticket =
      t.tickets.count ticket + (s'.tickets i).count ticket := by
  obtain ⟨there, is⟩ := List.getElem?_eq_some_iff.mp turn
  obtain ⟨front, back, split, place, now⟩ := List.exists_of_set there
  rw [is] at split
  rw [now] at after
  subst place
  simp only [tickets, after, split, List.zipIdx_append, List.zipIdx_cons, List.flatMap_append,
    List.flatMap_cons, List.count_append, Nat.zero_add]
  omega

theorem tickets_call (opens : s.Opening) (after : t'.callers = t.callers ++ [s]) :
    t'.tickets = t.tickets := by
  cases opens <;> simp [tickets, after, List.zipIdx_append, Stand.tickets]

/-- What holds at all times: callers may rely on what they found; whoever has the lock is a caller that
stands where it is needed; and every ticket that was accepted is filed once, and has been begun with if it
does not wait. -/
structure Sound (t : Traffic) : Prop where
  fits : ∀ (i : Nat) (s : Stand), t.callers[i]? = some s → s.Fits i t.desk
  held : ∀ (i : Nat), t.desk.holder = some i → ∃ s : Stand, t.callers[i]? = some s ∧ s.Holds
  ordered : t.desk.Ordered
  filed : ∀ ticket, t.desk.crew.tickets.count ticket = t.tickets.count ticket
  begun : ∀ ticket, t.desk.crew.begun.count ticket + t.desk.crew.queue.count ticket = t.tickets.count ticket

@[simp] theorem callers_opening (d : Dispatcher) : (opening d).callers = [] := rfl

theorem sound_opening (d : Dispatcher) : Sound (opening d) where
  fits := by simp
  held := by simp [opening]
  ordered := by simp [opening, Desk.Ordered]
  filed := fun _ => rfl
  begun := fun _ => rfl

theorem Sound.step (h : Sound t) (step : Step settings actor t t') : Sound t' := by
  cases step with
  | @call _ s opens =>
    have same : tickets { t with callers := t.callers ++ [s] } = t.tickets := tickets_call opens rfl
    refine ⟨?_, ?_, h.ordered, fun ticket => ?_, fun ticket => ?_⟩
    · intro i other there
      rcases caller_of_call there with there | ⟨-, rfl⟩
      · exact h.fits i other there
      · cases opens <;> trivial
    · intro i held
      obtain ⟨s, there, holds⟩ := h.held i held
      exact ⟨s, caller_call there _, holds⟩
    · rw [same]
      exact h.filed ticket
    · rw [same]
      exact h.begun ticket
  | @deal _ i s desk s' turn deals =>
    have fits := h.fits i s turn
    have counts := count_tickets_set turn { t with desk := desk, callers := t.callers.set i s' } rfl
    refine ⟨?_, ?_, deals.ordered fits h.ordered, fun ticket => ?_, fun ticket => ?_⟩
    · intro j other there
      rcases caller_of_set there with ⟨rfl, rfl⟩ | ⟨ne, there⟩
      · exact deals.fits fits h.ordered
      · exact (deals.spares fits ne).fits (h.fits j other there)
    · intro j held
      rcases deals.holder fits held with ⟨rfl, holds⟩ | ⟨free, held⟩
      · exact ⟨s', List.getElem?_set_self (List.getElem?_eq_some_iff.mp turn).1, holds⟩
      · obtain ⟨other, there, holds⟩ := h.held j held
        have ne : i ≠ j := by
          rintro rfl
          cases turn.symm.trans there
          exact free holds
        exact ⟨other, (List.getElem?_set_ne ne).trans there, holds⟩
    · have := counts ticket
      have := (deals.counts ticket).1
      have := h.filed ticket
      show desk.crew.tickets.count ticket = _
      omega
    · have := counts ticket
      have := (deals.counts ticket).2
      have := h.begun ticket
      show desk.crew.begun.count ticket + desk.crew.queue.count ticket = _
      omega
  | work works =>
    refine ⟨?_, h.held, ?_, fun ticket => ?_, fun ticket => ?_⟩
    · exact fun i s there => (Desk.spares_works works).fits (h.fits i s there)
    · exact fun shut => h.ordered (works.isShutDown.symm.trans shut)
    · exact (works.count_tickets ticket).trans (h.filed ticket)
    · exact (works.count_begun ticket).trans (h.begun ticket)
  | forget ended asked new free =>
    refine ⟨?_, h.held, h.ordered, h.filed, h.begun⟩
    exact fun i s there => (Desk.spares_forget _).fits (h.fits i s there)

theorem Steps.sound (h : Sound t) (steps : Steps settings t t') : Sound t' := by
  induction steps with
  | refl => exact h
  | tail _ step ih =>
    obtain ⟨_, step⟩ := step
    exact ih.step step

/-- A step after which dispatcher and workers are what they were before. -/
def Turn.Idle (turn : Turn) : Prop :=
  turn.after.desk.dispatcher = turn.before.desk.dispatcher ∧ turn.after.desk.crew = turn.before.desk.crew

/-- What is known of the steps that were made: those that a caller made are steps of a caller that there is,
and a caller that was not let through has changed nothing but the lock. -/
structure Recorded (turns : List Turn) (t : Traffic) : Prop where
  known : ∀ turn ∈ turns, ∀ i, turn.actor = some i → i < t.callers.length
  outside : ∀ (i : Nat) (s : Stand), t.callers[i]? = some s → s.Outside →
    ∀ turn ∈ turns, turn.actor = some i → turn.Idle

/-- A step of nobody adds nothing to what callers did. -/
theorem Recorded.nobody (h : Recorded turns t) (same : t'.callers = t.callers) :
    Recorded (turns ++ [⟨none, t, t'⟩]) t' where
  known := by
    intro turn made i acts
    rcases List.mem_append.mp made with made | new
    · exact same ▸ h.known turn made i acts
    · cases List.mem_singleton.mp new
      cases acts
  outside := by
    intro i s there outside turn made acts
    rcases List.mem_append.mp made with made | new
    · exact h.outside i s (same ▸ there) outside turn made acts
    · cases List.mem_singleton.mp new
      cases acts

theorem Recorded.call (h : Recorded turns t) (s : Stand) :
    Recorded (turns ++ [⟨some t.callers.length, t, { t with callers := t.callers ++ [s] }⟩])
      { t with callers := t.callers ++ [s] } where
  known := by
    intro turn made i acts
    rw [List.length_append, List.length_singleton]
    rcases List.mem_append.mp made with made | new
    · exact Nat.lt_succ_of_lt (h.known turn made i acts)
    · cases List.mem_singleton.mp new
      cases acts
      exact Nat.lt_succ_self _
  outside := by
    intro i other there outside turn made acts
    rcases List.mem_append.mp made with made | new
    · rcases caller_of_call there with there | ⟨rfl, -⟩
      · exact h.outside i other there outside turn made acts
      · exact absurd (h.known turn made _ acts) (Nat.lt_irrefl _)
    · cases List.mem_singleton.mp new
      exact ⟨rfl, rfl⟩

theorem Recorded.deal {desk : Desk} (h : Recorded turns t) (turn : t.callers[i]? = some s)
    (deals : t.desk.Deals i s desk s') :
    Recorded (turns ++ [⟨some i, t, { t with desk := desk, callers := t.callers.set i s' }⟩])
      { t with desk := desk, callers := t.callers.set i s' } where
  known := by
    intro made there j acts
    rw [List.length_set]
    rcases List.mem_append.mp there with there | new
    · exact h.known made there j acts
    · cases List.mem_singleton.mp new
      cases acts
      exact (List.getElem?_eq_some_iff.mp turn).1
  outside := by
    intro j other there outside made here acts
    rcases List.mem_append.mp here with before | new
    · rcases caller_of_set there with ⟨rfl, rfl⟩ | ⟨-, there⟩
      · exact h.outside i s turn (deals.outside outside).1 made before acts
      · exact h.outside j other there outside made before acts
    · cases List.mem_singleton.mp new
      cases acts
      rcases caller_of_set there with ⟨-, rfl⟩ | ⟨ne, -⟩
      · exact (deals.outside outside).2
      · exact absurd rfl ne

theorem Recorded.step (h : Recorded turns t) (step : Step settings actor t t') :
    Recorded (turns ++ [⟨actor, t, t'⟩]) t' := by
  cases step with
  | call => exact h.call _
  | deal turn deals => exact h.deal turn deals
  | work | forget => exact h.nobody rfl

theorem Leads.steps (leads : Leads settings t turns t') : Steps settings t t' := by
  induction leads with
  | refl => exact .refl
  | snoc _ step ih => exact ih.tail ⟨_, step⟩

end Traffic
end Automation
