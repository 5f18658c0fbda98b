import Automation.Run.Proc

/-!
What a procedure does when it is run: its result, the exchanges that lead to it, the deeds among them,
and who makes which calls. Running a sequence is running its parts, for every answerer. A procedure that
makes certain calls only does so whatever it is answered.
-/
namespace Automation

/-- A call and what it was answered with. -/
structure Exchange where
  call : Call
  answer : call.Answer

/-- The request that an exchange made. -/
def Exchange.request? : Exchange → Option Http.Request
  | ⟨.send request, _⟩ => some request
  | _ => none

/-- Whether an exchange failed. -/
def Exchange.failed : Exchange → Bool
  | ⟨.loadExecution _, .error _⟩ => true
  | ⟨.saveExecution _, .error _⟩ => true
  | ⟨.loadWorkflow _, .error _⟩ => true
  | ⟨.appendLog _, .error _⟩ => true
  | ⟨.send _, .error _⟩ => true
  | _ => false

/-- The requests made in some exchanges, in order. -/
def requests (exchanges : List Exchange) : List Http.Request := exchanges.filterMap (·.request?)

@[simp] theorem requests_append (a b : List Exchange) :
    requests (a ++ b) = requests a ++ requests b := by
  simp only [requests, List.filterMap_append]

/-- What an exchange leaves outside of the engine: a record that is saved, an entry that the log is
given, a request that is sent. -/
inductive Deed where
  | save (e : Execution)
  | log (entry : LogEntry)
  | send (request : Http.Request)

/-- The record that a deed saves. -/
def Deed.saved? : Deed → Option Execution
  | .save e => some e
  | _ => none

/-- The entry that a deed gives the log. -/
def Deed.logged? : Deed → Option LogEntry
  | .log entry => some entry
  | _ => none

/-- The request that a deed makes. -/
def Deed.request? : Deed → Option Http.Request
  | .send request => some request
  | _ => none

/-- The deed of an exchange, whatever it was answered. -/
def Exchange.deed? : Exchange → Option Deed
  | ⟨.saveExecution e, _⟩ => some (.save e)
  | ⟨.appendLog entry, _⟩ => some (.log entry)
  | ⟨.send request, _⟩ => some (.send request)
  | _ => none

/-- The deeds among some exchanges, in order. -/
def deeds (exchanges : List Exchange) : List Deed := exchanges.filterMap (·.deed?)

@[simp] theorem deeds_append (a b : List Exchange) : deeds (a ++ b) = deeds a ++ deeds b := by
  simp only [deeds, List.filterMap_append]

/-- The calls that are no deeds. -/
def Call.Idle : Call → Prop
  | .saveExecution _ | .appendLog _ | .send _ => False
  | _ => True

theorem Exchange.deed?_idle {c : Call} (h : c.Idle) (a : c.Answer) : Exchange.deed? ⟨c, a⟩ = none := by
  cases c <;> first | rfl | exact h.elim

namespace Proc

variable {σ α β : Type} (answer : Answerer σ)

/-- The exchanges of a procedure, in order. -/
def trace : Proc α → σ → List Exchange
  | .done _, _ => []
  | .call c next, s => ⟨c, (answer c s).1⟩ :: (next (answer c s).1).trace (answer c s).2

@[simp] theorem run_done (a : α) (s : σ) : (Proc.done a).run answer s = (a, s) := rfl
@[simp] theorem trace_done (a : α) (s : σ) : (Proc.done a).trace answer s = [] := rfl

@[simp] theorem run_bind (p : Proc α) (f : α → Proc β) (s : σ) :
    (p.bind f).run answer s = (f (p.run answer s).1).run answer (p.run answer s).2 := by
  induction p generalizing s with
  | done a => rfl
  | call c next ih => exact ih _ _

@[simp] theorem trace_bind (p : Proc α) (f : α → Proc β) (s : σ) :
    (p.bind f).trace answer s =
      p.trace answer s ++ (f (p.run answer s).1).trace answer (p.run answer s).2 := by
  induction p generalizing s with
  | done a => rfl
  | call c next ih =>
    rw [bind_call]
    simp only [trace, run, List.cons_append, ih]

variable {answer} in
/-- A procedure that begins with a call goes on from what the call is answered. -/
theorem run_ask_bind {c : Call} {f : c.Answer → Proc α} {s s' : σ} {a : α}
    (h : ((ask c).bind f).run answer s = (a, s')) :
    ∃ answered s₁, answer c s = (answered, s₁) ∧ (f answered).run answer s₁ = (a, s') :=
  ⟨_, _, rfl, h⟩

variable {answer} in
theorem trace_ask_bind {c : Call} {f : c.Answer → Proc α} {s s₁ : σ} {answered : c.Answer}
    (h : answer c s = (answered, s₁)) :
    ((ask c).bind f).trace answer s = ⟨c, answered⟩ :: (f answered).trace answer s₁ := by
  obtain ⟨rfl, rfl⟩ : (answer c s).1 = answered ∧ (answer c s).2 = s₁ := by
    rw [h]
    exact ⟨rfl, rfl⟩
  rfl

/-- The procedure makes only calls of a kind, whatever it is answered. -/
def Only (P : Call → Prop) : Proc α → Prop
  | .done _ => True
  | .call c next => P c ∧ ∀ a, (next a).Only P

variable {P : Call → Prop}

theorem Only.done (a : α) : (Proc.done a).Only P := trivial

theorem Only.ask {c : Call} (h : P c) : (ask c).Only P := ⟨h, fun _ => trivial⟩

theorem Only.bind {p : Proc α} {f : α → Proc β} (hp : p.Only P) (hf : ∀ a, (f a).Only P) :
    (p.bind f).Only P := by
  induction p with
  | done a => exact hf a
  | call c next ih => exact ⟨hp.1, fun a => ih a (hp.2 a)⟩

theorem Only.mono {Q : Call → Prop} {p : Proc α} (h : p.Only P) (hPQ : ∀ c, P c → Q c) :
    p.Only Q := by
  induction p with
  | done a => trivial
  | call c next ih => exact ⟨hPQ c h.1, fun a => ih a (h.2 a)⟩

/-- What no call of the kind shows is not found among the exchanges of the procedure. -/
theorem Only.filterMap_trace {γ : Type} {p : Proc α} (h : p.Only P) {f : Exchange → Option γ}
    (none_of : ∀ (c : Call) (a : c.Answer), P c → f ⟨c, a⟩ = none) (s : σ) :
    (p.trace answer s).filterMap f = [] := by
  induction p generalizing s with
  | done a => rfl
  | call c next ih =>
    rw [trace, List.filterMap_cons, none_of c _ h.1]
    exact ih _ (h.2 _) _

/-- The exchanges of the procedure are about calls of the kind. -/
theorem Only.of_mem_trace {p : Proc α} (h : p.Only P) (s : σ) {c : Call} {a : c.Answer}
    (made : ⟨c, a⟩ ∈ p.trace answer s) : P c := by
  induction p generalizing s with
  | done b => cases made
  | call c' next ih =>
    rcases List.mem_cons.mp made with first | later
    · cases first
      exact h.1
    · exact ih _ (h.2 _) _ later

/-- What no call of the kind changes is not changed by the procedure either. -/
theorem Only.run_eq {γ : Type} {p : Proc α} (h : p.Only P) (view : σ → γ)
    (keeps : ∀ c s, P c → view (answer c s).2 = view s) (s : σ) :
    view (p.run answer s).2 = view s := by
  induction p generalizing s with
  | done a => rfl
  | call c next ih =>
    calc view ((next (answer c s).1).run answer (answer c s).2).2
        = view (answer c s).2 := ih _ (h.2 _) _
      _ = view s := keeps c s h.1

end Proc
end Automation
