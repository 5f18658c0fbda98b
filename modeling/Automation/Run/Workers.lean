import Automation.Run.Dispatcher
import Automation.Run.Rehearsal

/-!
A dispatcher at work in a rehearsal. Every worker carries one run. While the gate of the workflow store
is closed, a run waits where it loads its workflow; runs beyond the number of workers wait for a worker.
-/
namespace Automation

/-- A run that is under way or waits for a worker: its number, its id, what is left to do, and the
fields that its thread has put into the journal. -/
structure Job where
  number : Nat
  id : String
  rest : Proc (Option Execution)
  fields : Fields Value := []

structure Workers where
  settings : EngineSettings
  dispatcher : Dispatcher
  rehearsal : Rehearsal
  gateClosed : Bool := false
  /-- Runs that wait at the gate. -/
  waiting : List Job := []
  /-- Runs that wait for a worker. -/
  queued : List Job := []
  /-- How many runs were submitted. -/
  submitted : Nat := 0
  /-- The results of the finished runs, by number. -/
  results : List (Nat × Option Execution) := []

/-- Runs a procedure up to a call of a kind, or to its end. -/
def Proc.runUntil {σ α : Type} (stops : Call → Bool) (answer : Answerer σ) :
    Proc α → σ → Proc α × σ
  | .done a, s => (.done a, s)
  | .call c next, s =>
    if stops c then (.call c next, s)
    else (next (answer c s).1).runUntil stops answer (answer c s).2

def Call.waitsAtGate : Call → Bool
  | .loadWorkflow _ => true
  | _ => false

namespace Workers

def start (settings : EngineSettings) (dispatcher : Dispatcher) (rehearsal : Rehearsal) : Workers where
  settings := settings
  dispatcher := dispatcher
  rehearsal := { rehearsal with tape := rehearsal.tape.write dispatcher.createdNote }

/-- Lets a worker go on with a run as far as the gate allows. -/
def advance (w : Workers) (job : Job) : Workers :=
  let outer := w.rehearsal.tape.fields
  let r := { w.rehearsal with tape := { w.rehearsal.tape with fields := job.fields } }
  let (rest, r) := job.rest.runUntil (fun c => w.gateClosed && c.waitsAtGate) Rehearsal.answer r
  let fields := r.tape.fields
  let w := { w with rehearsal := { r with tape := { r.tape with fields := outer } } }
  match rest with
  | .done result =>
    { w with
      results := w.results ++ [(job.number, result)]
      dispatcher := w.dispatcher.forget job.id }
  | rest => { w with waiting := w.waiting ++ [{ job with rest := rest, fields := fields }] }

def hasFreeWorker (w : Workers) : Bool := w.waiting.length < w.dispatcher.maxWorkers

/-- Gives queued runs to free workers. -/
def schedule (w : Workers) : List Job → Workers
  | [] => w
  | job :: rest =>
    if w.hasFreeWorker then schedule (w.advance job) rest
    else { w with queued := w.queued ++ job :: rest }

def submit (w : Workers) (id : String) : Except Failure (Nat × Workers) := do
  let dispatcher ← w.dispatcher.submit id
  let number := w.submitted
  let tape := w.rehearsal.tape.write (Dispatcher.submittedNote id)
  let w := { w with
    dispatcher := dispatcher
    submitted := number + 1
    rehearsal := { w.rehearsal with tape := tape } }
  let queue := w.queued ++ [⟨number, id, runGuarded w.settings id, []⟩]
  .ok (number, schedule { w with queued := [] } queue)

def closeGate (w : Workers) : Workers := { w with gateClosed := true }

/-- Opens the gate: the runs that waited there go on, and after them the queued ones. -/
def openGate (w : Workers) : Workers :=
  let jobs := w.waiting ++ w.queued
  schedule { w with gateClosed := false, waiting := [], queued := [] } jobs

/-- Shuts the dispatcher down and waits for its runs. -/
def shutDown (w : Workers) : Workers :=
  let w := { w.openGate with dispatcher := w.openGate.dispatcher.shutDown }
  { w with rehearsal := { w.rehearsal with tape := w.rehearsal.tape.write Dispatcher.shutDownNote } }

def result? (w : Workers) (number : Nat) : Option (Option Execution) := w.results.lookup number

end Workers
end Automation
