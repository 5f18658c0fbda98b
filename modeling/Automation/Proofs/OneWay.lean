import Automation.Proofs.Interleaving

/-!
The way of an execution from pending over running to its end. A guarded run does not check how far the
execution has come when it begins; so its status goes one way only as long as nobody asks for a run of an
execution that is under way or over. Then a record that is over never changes again, whatever else runs
at the same time and whatever faults the stores have.
-/
namespace Automation

open Proc

/-- How far a status is on the way. -/
def Status.rank : Status → Nat
  | .pending => 0
  | .running => 1
  | .completed | .failed => 2

theorem Status.rank_le_running {status : Status} (h : status.isTerminal = false) :
    status.rank ≤ Status.running.rank := by
  cases status <;> first | decide | cases h

/-- A status that may follow on a record: the record is not over, and does not go back. -/
def Onward (record : Option Execution) (status : Status) : Prop :=
  ∀ e, record = some e → e.status.isTerminal = false ∧ e.status.rank ≤ status.rank

/-- The record is not over, if there is one. -/
def Unfinished (record : Option Execution) : Prop :=
  ∀ e, record = some e → e.status.isTerminal = false

/-- The record has the id, if there is one. -/
def HasId (id : String) (record : Option Execution) : Prop := ∀ e, record = some e → e.id = id

/-- A contract about the record of an id that nobody else writes: it goes one way. Loads and saves may
fail, and a save that fails may have stored its record. -/
def Contract.oneWay (id : String) : Contract (Option Execution) where
  admits := fun record c =>
    match c with
    | .loadExecution asked => asked = id
    | .saveExecution e => e.id = id ∧ Onward record e.status
    | _ => True
  allows := fun record x after =>
    match x with
    | ⟨.loadExecution _, answer⟩ => after = record ∧ ∀ found, answer = .ok found → found = record
    | ⟨.saveExecution e, answer⟩ =>
      after = some e ∨ after = record ∧ ∃ failure, answer = .error failure
    | _ => after = record

/-- The calls that are not about records. -/
def Call.Aside : Call → Prop
  | .loadExecution _ | .saveExecution _ => False
  | _ => True

theorem Contract.oneWay_aside {id : String} {record after : Option Execution} {c : Call} (h : c.Aside)
    {a : c.Answer} (allowed : (oneWay id).allows record ⟨c, a⟩ after) : after = record := by
  cases c <;> first | exact h.elim | exact allowed

/-- A call that is not about records leaves everything as it is. -/
theorem Proc.Under.ask_aside {α : Type} {id : String} {record : Option Execution} {c : Call}
    {f : c.Answer → Proc α} {post : α → Option Execution → Prop} (h : c.Aside)
    (next : ∀ a, (f a).Under (.oneWay id) record post) :
    ((Proc.ask c).bind f).Under (.oneWay id) record post := by
  refine .ask ?_ fun a after allowed => ?_
  · cases c <;> first | exact h.elim | trivial
  · rw [Contract.oneWay_aside h allowed]
    exact next a

theorem Unfinished.onward {record : Option Execution} (h : Unfinished record) {status : Status}
    (started : 0 < status.rank) : Onward record status := by
  intro e he
  have unfinished := h e he
  refine ⟨unfinished, ?_⟩
  have := Status.rank_le_running unfinished
  have : Status.running.rank = 1 := rfl
  omega

section

variable {id : String} {record : Option Execution}

/-- The end of a run is stored on a record that is not over. -/
theorem finish_oneWay {e : Execution} (own : e.id = id) {status : Status} (hasId : HasId id record)
    (onward : Onward record status) :
    (finish e status).Under (.oneWay id) record fun _ after => HasId id after := by
  refine .ask_aside trivial fun stopped => ?_
  refine .ask ⟨own, onward⟩ fun saved after stored => ?_
  have hasId' : HasId id after := by
    rcases stored with rfl | ⟨rfl, -⟩
    · rintro e' ⟨⟩
      exact own
    · exact hasId
  cases saved with
  | error failure => exact hasId'
  | ok => exact .ask_aside trivial fun _ => hasId'

theorem walkFrom_oneWay (run : RunContext) (w : Walk) (start : String) :
    (walkFrom run w start).Under (.oneWay id) record fun _ after => after = record := by
  refine (walkStack_only run w [start]).under ?_ ?_
  · intro c ofWalk
    cases c <;> first | exact ofWalk.elim | trivial
  · intro c a after ofWalk allowed
    cases c <;> first | exact ofWalk.elim | exact allowed

theorem followWorkflow_oneWay (settings : EngineSettings) {e : Execution} (own : e.id = id)
    (running : e.status = .running) (w : Workflow) :
    (followWorkflow settings e w).Under (.oneWay id) (some e) fun _ after => HasId id after := by
  have hasId : HasId id (some e) := by
    rintro _ ⟨⟩
    exact own
  have unfinished : Unfinished (some e) := by
    rintro _ ⟨⟩
    rw [running]
    rfl
  unfold followWorkflow
  cases triggered : (Graph.ofWorkflow w).trigger? with
  | none =>
    simp only [triggered]
    exact .ask_aside trivial fun _ => finish_oneWay own hasId (unfinished.onward (by decide))
  | some trigger =>
    simp only [triggered]
    refine .ask_aside trivial fun _ => ?_
    refine (walkFrom_oneWay _ _ _).bind fun (failure, walk) after same => ?_
    obtain rfl : after = some e := same
    cases failure with
    | some failure => exact hasId
    | none =>
      refine .ask_aside trivial fun _ => ?_
      refine finish_oneWay ?_ hasId (unfinished.onward (by decide))
      split <;> exact own

theorem carryOutExecution_oneWay (settings : EngineSettings) {e : Execution} (own : e.id = id)
    (hasId : HasId id record) (unfinished : Unfinished record) :
    (carryOutExecution settings e).Under (.oneWay id) record fun _ after => HasId id after := by
  refine .ask_aside trivial fun began => ?_
  let begun : Execution := { e with status := .running, startedAt := some began }
  have own' : begun.id = id := own
  refine .ask ⟨own', unfinished.onward Nat.one_pos⟩ fun saved after stored => ?_
  cases saved with
  | error failure =>
    rcases stored with rfl | ⟨rfl, -⟩
    · rintro e' ⟨⟩
      exact own
    · exact hasId
  | ok =>
    obtain rfl : after = some begun := by
      rcases stored with rfl | ⟨-, failure, told⟩
      · rfl
      · cases told
    have hasBegun : HasId id (some begun) := by
      rintro _ ⟨⟩
      exact own
    refine .ask_aside trivial fun loaded => ?_
    match loaded with
    | .error failure => exact hasBegun
    | .ok none =>
      refine .ask_aside trivial fun _ => ?_
      refine finish_oneWay own' hasBegun (Unfinished.onward ?_ (by decide))
      rintro _ ⟨⟩
      rfl
    | .ok (some w) => exact followWorkflow_oneWay settings own' rfl w

theorem runExecution_oneWay (settings : EngineSettings) (hasId : HasId id record)
    (unfinished : Unfinished record) :
    (runExecution settings id).Under (.oneWay id) record fun _ after => HasId id after := by
  refine .ask rfl fun loaded after found => ?_
  obtain ⟨rfl, found⟩ := found
  match loaded, found with
  | .error failure, _ => exact hasId
  | .ok none, _ => exact .ask_aside trivial fun _ => hasId
  | .ok (some e), found =>
    have own : e.id = id := hasId e (found _ rfl).symm
    refine .ask_aside trivial fun _ => ?_
    refine (carryOutExecution_oneWay settings own hasId unfinished).bind fun result after hasId' => ?_
    exact .ask_aside trivial fun _ => hasId'

/-- An execution is marked as failed only if it is not over. -/
theorem markFailed_oneWay (hasId : HasId id record) :
    (markFailed id).Under (.oneWay id) record fun _ _ => True := by
  refine .ask rfl fun loaded after found => ?_
  obtain ⟨rfl, found⟩ := found
  match loaded, found with
  | .error failure, _ => exact .ask (f := .done) trivial fun _ _ _ => trivial
  | .ok none, _ => exact trivial
  | .ok (some e), found =>
    obtain rfl : some e = after := found _ rfl
    have own : e.id = id := hasId e rfl
    simp only
    split
    · exact trivial
    · next unfinished =>
      have unfinished : Unfinished (some e) := by
        rintro _ ⟨⟩
        exact Bool.eq_false_iff.mpr unfinished
      refine .ask_aside trivial fun stopped => ?_
      refine .ask ⟨own, unfinished.onward Nat.two_pos⟩ fun saved _ _ => ?_
      cases saved with
      | ok => exact trivial
      | error failure => exact .ask (f := .done) trivial fun _ _ _ => trivial

/-- A guarded run goes one way on a record that is not over, as long as nobody else writes it. -/
theorem runGuarded_oneWay (settings : EngineSettings) (hasId : HasId id record)
    (unfinished : Unfinished record) :
    (runGuarded settings id).Under (.oneWay id) record fun _ _ => True := by
  refine (runExecution_oneWay settings hasId unfinished).bind fun result after hasId' => ?_
  cases result with
  | ok e => exact trivial
  | error failure =>
    refine .ask_aside trivial fun _ => ?_
    exact (markFailed_oneWay hasId').bind fun _ _ _ => trivial

/-- A record that is kept on its way: it stays, its status does not go back, and once it is over it
does not change. -/
def Advances (before after : Option Execution) : Prop :=
  ∀ e, before = some e → ∃ e', after = some e' ∧ e.status.rank ≤ e'.status.rank ∧
    (e.status.isTerminal = true → e' = e)

theorem Advances.refl (record : Option Execution) : Advances record record :=
  fun e he => ⟨e, he, Nat.le_refl _, fun _ => rfl⟩

theorem Advances.trans {first second third : Option Execution} (h : Advances first second)
    (h' : Advances second third) : Advances first third := by
  intro e he
  obtain ⟨e', he', further, kept⟩ := h e he
  obtain ⟨e'', he'', further', kept'⟩ := h' e' he'
  refine ⟨e'', he'', Nat.le_trans further further', ?_⟩
  intro terminal
  obtain rfl := kept terminal
  exact kept' terminal

/-- What the contract admits keeps the record on its way. -/
theorem Contract.oneWay_advances {c : Call} {a : c.Answer} {after : Option Execution}
    (admitted : (oneWay id).admits record c) (allowed : (oneWay id).allows record ⟨c, a⟩ after) :
    Advances record after := by
  cases c with
  | loadExecution asked =>
    rw [allowed.1]
    exact .refl record
  | saveExecution e =>
    rcases allowed with rfl | ⟨rfl, -⟩
    · intro old he
      obtain ⟨unfinished, further⟩ := admitted.2 old he
      refine ⟨e, rfl, further, ?_⟩
      intro terminal
      rw [unfinished] at terminal
      cases terminal
    · exact .refl after
  | _ =>
    obtain rfl : after = record := allowed
    exact .refl after

/-- Stores keep the contract towards a procedure that does. -/
theorem Records.allows_oneWay {σ : Type} {answer : Answerer σ}
    {recordOf : σ → String → Option Execution} (records : Records answer recordOf) (s : σ) {c : Call}
    (admitted : (Contract.oneWay id).admits (recordOf s id) c) :
    (Contract.oneWay id).allows (recordOf s id) ⟨c, (answer c s).1⟩ (recordOf (answer c s).2 id) := by
  rcases c.reading_or_save with reading | ⟨e, rfl⟩
  · have same := congrFun (records.reads c s reading) id
    cases c with
    | loadExecution asked =>
      obtain rfl : asked = id := admitted
      exact ⟨same, records.load asked s⟩
    | saveExecution e => exact reading.elim
    | _ => exact same
  · obtain ⟨rfl, -⟩ := admitted
    rcases records.save e s with stored | ⟨same, told⟩
    · left
      rw [stored, Function.update_self]
    · exact .inr ⟨congrFun same e.id, told⟩

end

namespace Pool

/-- What may happen to runs on shared stores: where it is allowed, an execution is submitted to the
dispatcher or run at once; and one of the runs goes on by a call. -/
inductive Move {σ : Type} (answer : Answerer σ) (settings : EngineSettings)
    (allowed : Pool σ Unit → String → Prop) : Pool σ Unit → Pool σ Unit → Prop
  | submit {pool} (id : String) (may : allowed pool id) :
      Move answer settings allowed pool (pool.enter id ((runGuarded settings id).bind fun _ => .done ()))
  | run {pool} (id : String) (may : allowed pool id) :
      Move answer settings allowed pool (pool.enter id ((runExecution settings id).bind fun _ => .done ()))
  | call {pool pool'} (step : Step answer pool pool') : Move answer settings allowed pool pool'

/-- Nobody asks for a run of the execution while it is under way or once it is over. -/
def Orderly {σ : Type} (record : σ → String → Option Execution) (id : String) (pool : Pool σ Unit)
    (asked : String) : Prop :=
  asked = id → (∀ (i : Nat) task, pool.tasks[i]? = some task → task.id = id → task.Finished) ∧
    Unfinished (record pool.world id)

/-- At most one run of the execution is under way, and it goes one way on the record. -/
structure OneWay {σ : Type} (record : σ → String → Option Execution) (id : String)
    (pool : Pool σ Unit) : Prop where
  confined : Confined record pool
  single : ∀ (i j : Nat) (a b : Task Unit), pool.tasks[i]? = some a → pool.tasks[j]? = some b →
    a.id = id → b.id = id → ¬a.Finished → ¬b.Finished → i = j
  under : ∀ (i : Nat) (task : Task Unit), pool.tasks[i]? = some task → task.id = id →
    task.rest.Under (.oneWay id) (record pool.world id) fun _ _ => True

section

variable {σ : Type} {answer : Answerer σ} {record : σ → String → Option Execution} {id : String}
  {pool pool' : Pool σ Unit} {settings : EngineSettings}

theorem OneWay.start {s : σ} (keyed : Keyed (record s)) : OneWay record id ⟨[], s, []⟩ := by
  refine ⟨⟨keyed, ?_⟩, ?_, ?_⟩
  · intro i task there
    cases there
  · intro i j a b there
    cases there
  · intro i task there
    cases there

/-- A call of the run of the execution that is under way. -/
theorem OneWay.answered_self (records : Records answer record) (h : OneWay record id pool) {i : Nat}
    {c : Call} {next : c.Answer → Proc Unit} (turn : pool.tasks[i]? = some ⟨id, .call c next⟩) :
    OneWay record id (pool.answered answer i id c next) ∧
      Advances (record pool.world id) (record (pool.answered answer i id c next).world id) := by
  have under := h.under i _ turn rfl
  have allowed := records.allows_oneWay pool.world under.1
  have only : ∀ (j : Nat) task, pool.tasks[j]? = some task → task.id = id → ¬task.Finished → j = i :=
    fun j task there is unfinished => h.single j i task _ there turn is rfl unfinished Task.not_finished
  have only' : ∀ (j : Nat) task, (pool.answered answer i id c next).tasks[j]? = some task →
      task.id = id → ¬task.Finished → j = i := by
    intro j task there is unfinished
    rcases tasks_answered there with ⟨same, -⟩ | ⟨-, there⟩
    · exact same
    · exact only j task there is unfinished
  refine ⟨⟨h.confined.answered records turn, ?_, ?_⟩, Contract.oneWay_advances under.1 allowed⟩
  · intro j k a b ha hb isA isB unfinishedA unfinishedB
    rw [only' j a ha isA unfinishedA, only' k b hb isB unfinishedB]
  · intro j task there is
    rcases tasks_answered there with ⟨-, rfl⟩ | ⟨ne, there⟩
    · exact under.answered allowed
    · by_cases finished : task.Finished
      · exact finished.under _ _
      · exact absurd (only j task there is finished) ne

/-- A call of a run of another execution. -/
theorem OneWay.answered_other (records : Records answer record) (h : OneWay record id pool) {i : Nat}
    {other : String} {c : Call} {next : c.Answer → Proc Unit} (ne : id ≠ other)
    (turn : pool.tasks[i]? = some ⟨other, .call c next⟩) :
    OneWay record id (pool.answered answer i other c next) ∧
      record (pool.answered answer i other c next).world id = record pool.world id := by
  have same := h.confined.record_other records turn ne
  have before : ∀ (j : Nat) task, (pool.answered answer i other c next).tasks[j]? = some task →
      task.id = id → pool.tasks[j]? = some task := by
    intro j task there is
    rcases tasks_answered there with ⟨-, rfl⟩ | ⟨-, there⟩
    · exact absurd is ne.symm
    · exact there
  refine ⟨⟨h.confined.answered records turn, ?_, ?_⟩, same⟩
  · intro j k a b ha hb isA isB
    exact h.single j k a b (before j a ha isA) (before k b hb isB) isA isB
  · intro j task there is
    rw [same]
    exact h.under j task (before j task there is) is

/-- A run is entered: of another execution, or of this one while no other is under way. -/
theorem OneWay.enter (h : OneWay record id pool) {asked : String} {p : Proc Unit}
    (own : p.Under (.own asked) () fun _ _ => True)
    (free : asked = id → ∀ (i : Nat) task, pool.tasks[i]? = some task → task.id = id → task.Finished)
    (under : asked = id → p.Under (.oneWay id) (record pool.world id) fun _ _ => True) :
    OneWay record id (pool.enter asked p) := by
  refine ⟨h.confined.enter own, ?_, ?_⟩
  · intro i j a b ha hb isA isB unfinishedA unfinishedB
    rcases tasks_enter ha with ha | ⟨atA, rfl⟩ <;> rcases tasks_enter hb with hb | ⟨atB, rfl⟩
    · exact h.single i j a b ha hb isA isB unfinishedA unfinishedB
    · exact absurd (free isB i a ha isA) unfinishedA
    · exact absurd (free isA j b hb isB) unfinishedB
    · rw [atA, atB]
  · intro i task there is
    rcases tasks_enter there with there | ⟨-, rfl⟩
    · exact h.under i task there is
    · exact under is

theorem ignored_under {ρ α : Type} {contract : Contract ρ} {r : ρ} {p : Proc α} {post : α → ρ → Prop}
    (h : p.Under contract r post) :
    (p.bind fun _ => Proc.done ()).Under contract r fun _ _ => True :=
  h.bind fun _ _ _ => trivial

/-- Whatever happens in an orderly way, the record goes on its way. -/
theorem OneWay.move (records : Records answer record) (h : OneWay record id pool)
    (move : Move answer settings (Orderly record id) pool pool') :
    OneWay record id pool' ∧ Advances (record pool.world id) (record pool'.world id) := by
  have hasId : HasId id (record pool.world id) := h.confined.keyed id
  cases move with
  | submit asked may =>
    refine ⟨h.enter (ignored_under (runGuarded_own settings asked)) (fun is => (may is).1) ?_, .refl _⟩
    rintro rfl
    exact ignored_under (runGuarded_oneWay settings hasId (may rfl).2)
  | run asked may =>
    refine ⟨h.enter (ignored_under (runExecution_own settings asked)) (fun is => (may is).1) ?_, .refl _⟩
    rintro rfl
    exact ignored_under (runExecution_oneWay settings hasId (may rfl).2)
  | call step =>
    cases step with
    | @call i other c next turn =>
      by_cases same : id = other
      · subst same
        exact h.answered_self records turn
      · obtain ⟨oneWay, unchanged⟩ := h.answered_other records same turn
        refine ⟨oneWay, ?_⟩
        rw [unchanged]
        exact .refl _

theorem OneWay.moves (records : Records answer record) (h : OneWay record id pool)
    (moves : Relation.ReflTransGen (Move answer settings (Orderly record id)) pool pool') :
    OneWay record id pool' ∧ Advances (record pool.world id) (record pool'.world id) := by
  induction moves with
  | refl => exact ⟨h, .refl _⟩
  | tail _ last ih =>
    obtain ⟨oneWay, advances⟩ := ih.1.move records last
    exact ⟨oneWay, ih.2.trans advances⟩

end

section

variable {σ : Type} {answer : Answerer σ} {settings : EngineSettings}
  {allowed : Pool σ Unit → String → Prop}

/-- A submitted execution that is run while all other runs wait. -/
def submitted (answer : Answerer σ) (settings : EngineSettings) (pool : Pool σ Unit) (id : String) :
    Pool σ Unit :=
  let p := (runGuarded settings id).bind fun _ => .done ()
  (pool.enter id p).carriedOut answer pool.tasks.length id p

theorem moves_submitted (pool : Pool σ Unit) (id : String) (may : allowed pool id) :
    Relation.ReflTransGen (Move answer settings allowed) pool (pool.submitted answer settings id) := by
  let p := (runGuarded settings id).bind fun _ => .done ()
  have turn : (pool.enter id p).tasks[pool.tasks.length]? = some ⟨id, p⟩ := List.getElem?_concat_length
  have steps := steps_carriedOut answer turn
  exact .head (.submit id may) (Relation.ReflTransGen.mono (fun _ _ step => .call step) _ _ steps)

end

end Pool

/-- As long as nobody asks for a run of an execution while it is under way or once it is over, its status
goes one way from pending over running to its end, whatever other runs are asked for and go on in
between, and whatever faults the stores have: a status never goes back, and a record that is over never
changes again. -/
theorem status_goes_one_way {σ : Type} {answer : Answerer σ} {record : σ → String → Option Execution}
    (records : Records answer record) (settings : EngineSettings) (id : String) {s : σ}
    (keyed : Keyed (record s)) {pool pool' : Pool σ Unit}
    (first : Relation.ReflTransGen (Pool.Move answer settings (Pool.Orderly record id)) ⟨[], s, []⟩ pool)
    (later : Relation.ReflTransGen (Pool.Move answer settings (Pool.Orderly record id)) pool pool') :
    ∀ e, record pool.world id = some e → ∃ e', record pool'.world id = some e' ∧
      e.status.rank ≤ e'.status.rank ∧ (e.status.isTerminal = true → e' = e) := by
  have start : Pool.OneWay record id ⟨[], s, []⟩ := .start keyed
  exact ((start.moves records first).1.moves records later).2

/-- Another execution is run after one that is completed, which stays as it is. -/
theorem status_goes_one_way_completed :
    let workflow : Workflow := { id := some "w", name := "W", nodes := [{ id := "t", type := "trigger" }] }
    let r := Rehearsal.start {} [workflow]
      [{ id := "e", workflowId := "w" }, { id := "f", workflowId := "w" }] default
    let first := Pool.submitted Rehearsal.answer {} ⟨[], r, []⟩ "e"
    let second := first.submitted Rehearsal.answer {} "f"
    Records Rehearsal.answer Rehearsal.record ∧ Keyed r.record ∧
    Relation.ReflTransGen (Pool.Move Rehearsal.answer {} (Pool.Orderly Rehearsal.record "e")) ⟨[], r, []⟩
      first ∧
    Relation.ReflTransGen (Pool.Move Rehearsal.answer {} (Pool.Orderly Rehearsal.record "e")) first
      second ∧
    ∃ e, e.status = .completed ∧ first.world.record "e" = some e ∧ second.world.record "e" = some e := by
  intro workflow r first second
  have keyed : Keyed r.record := Rehearsal.keyed_start _ _ _ _
  have submitted : Relation.ReflTransGen
      (Pool.Move Rehearsal.answer {} (Pool.Orderly Rehearsal.record "e")) ⟨[], r, []⟩ first := by
    apply Pool.moves_submitted
    intro _
    constructor
    · intro i task there
      cases there
    · rintro e ⟨⟩
      rfl
  have further : Relation.ReflTransGen
      (Pool.Move Rehearsal.answer {} (Pool.Orderly Rehearsal.record "e")) first second := by
    apply Pool.moves_submitted
    intro other
    exact absurd other (by decide)
  have completed : (first.world.record "e").map (·.status) = some .completed := by decide +kernel
  obtain ⟨e, stored, status⟩ := Option.map_eq_some_iff.mp completed
  obtain ⟨e', stored', -, kept⟩ :=
    status_goes_one_way Rehearsal.keeps_records {} "e" keyed submitted further e stored
  obtain rfl := kept (by rw [status]; rfl)
  exact ⟨Rehearsal.keeps_records, keyed, submitted, further, e', status, stored, stored'⟩

/-- An execution that is submitted twice is stored as running again after it was completed. -/
theorem status_goes_back :
    let workflow : Workflow := { id := some "w", name := "W", nodes := [{ id := "t", type := "trigger" }] }
    let r := Rehearsal.start {} [workflow] [{ id := "e", workflowId := "w" }] default
    ∃ pool pool' : Pool Rehearsal Unit,
      Relation.ReflTransGen (Pool.Move Rehearsal.answer {} fun _ _ => True) ⟨[], r, []⟩ pool ∧
      Relation.ReflTransGen (Pool.Move Rehearsal.answer {} fun _ _ => True) pool pool' ∧
      (pool.world.record "e").map (·.status) = some .completed ∧
      (Rehearsal.shelf "e" pool'.world).stored =
        (Rehearsal.shelf "e" pool.world).stored ++ [.running, .completed] := by
  intro workflow r
  refine ⟨_, _, Pool.moves_submitted ⟨[], r, []⟩ "e" trivial, Pool.moves_submitted _ "e" trivial, ?_, ?_⟩
  · decide +kernel
  · decide +kernel

end Automation
