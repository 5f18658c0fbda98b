import Automation.Http.Message
import Automation.Journal.Record
import Automation.Run.Execution
import Automation.Workflow.Basic

/-!
Procedures: what the engine does, as a tree of calls on its collaborators. A procedure says which call
comes next for every answer to the calls before; who answers is a parameter of running it. So one
procedure runs against any stores, any log and any network, and can be stopped at every call.
-/
namespace Automation

open Journal (Record)

inductive Call where
  | loadExecution (id : String)
  | saveExecution (e : Execution)
  | loadWorkflow (id : String)
  | appendLog (entry : LogEntry)
  | send (request : Http.Request)
  | readClock
  | write (record : Record)
  /-- Fields that the journal adds to the records of this thread from now on. -/
  | enterContext (fields : Fields Value)
  | leaveContext

/-- What a call is answered with. Stores, the log and the network may fail. -/
@[reducible] def Call.Answer : Call → Type
  | .loadExecution _ => Except Failure (Option Execution)
  | .saveExecution _ => Except Failure Unit
  | .loadWorkflow _ => Except Failure (Option Workflow)
  | .appendLog _ => Except Failure Unit
  | .send _ => Except Failure Http.Response
  | .readClock => Instant
  | .write _ => Unit
  | .enterContext _ => Unit
  | .leaveContext => Unit

inductive Proc (α : Type) where
  | done (a : α)
  | call (c : Call) (next : c.Answer → Proc α)

namespace Proc

variable {α β : Type}

def ask (c : Call) : Proc c.Answer := .call c .done

protected def bind : Proc α → (α → Proc β) → Proc β
  | .done a, f => f a
  | .call c next, f => .call c fun answer => (next answer).bind f

instance : Monad Proc where
  pure := .done
  bind := Proc.bind

@[simp] theorem bind_done (a : α) (f : α → Proc β) : (Proc.done a).bind f = f a := rfl

@[simp] theorem bind_call (c : Call) (next : c.Answer → Proc α) (f : α → Proc β) :
    (Proc.call c next).bind f = .call c fun answer => (next answer).bind f := rfl

theorem bind_assoc {γ : Type} (p : Proc α) (f : α → Proc β) (g : β → Proc γ) :
    (p.bind f).bind g = p.bind fun a => (f a).bind g := by
  induction p with
  | done a => rfl
  | call c next ih => simp [ih]

def write (level : Journal.Level) (source : Journal.Source) (message : String) : Proc Unit :=
  ask (.write (Journal.note level source message))

end Proc

/-- Someone who answers calls, and changes by it. -/
abbrev Answerer (σ : Type) := (c : Call) → σ → c.Answer × σ

def Proc.run {σ α : Type} (answer : Answerer σ) : Proc α → σ → α × σ
  | .done a, s => (a, s)
  | .call c next, s => (next (answer c s).1).run answer (answer c s).2

end Automation
