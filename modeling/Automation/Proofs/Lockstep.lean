import Automation.Proofs.Isolation

/-!
Two runs in lockstep. The worlds around them may differ in the log, in the journal and in the clock; all
other calls are answered alike in like worlds. Then the runs come to the same result and leave the same
behind, but for the times: whether the log takes an entry or fails does not bear on anything that
follows.
-/
namespace Automation

open Proc

/-- The calls whose answers a run does not go by, but for the time. -/
def Call.Disregarded : Call → Prop
  | .appendLog _ => True
  | c => c.Unseen

theorem Call.Unseen.disregarded {c : Call} (h : c.Unseen) : c.Disregarded := by
  cases c <;> first | exact h | trivial

/-- Two ways of answering calls, and which worlds are alike. Disregarded calls of either side leave the
worlds alike; all others are answered the same on both sides, but for the times in records. -/
structure Agree {σ τ : Type} (a : Answerer σ) (b : Answerer τ) (like : σ → τ → Prop) : Prop where
  aside : ∀ {c : Call} {s t}, c.Disregarded → like s t → like (a c s).2 t
  aside' : ∀ {c : Call} {s t}, c.Disregarded → like s t → like s (b c t).2
  load : ∀ (id : String) {s t}, like s t →
    (a (.loadExecution id) s).1.map (·.map (·.untimed)) =
      (b (.loadExecution id) t).1.map (·.map (·.untimed)) ∧
    like (a (.loadExecution id) s).2 (b (.loadExecution id) t).2
  save : ∀ {e e' : Execution} {s t}, e.untimed = e'.untimed → like s t →
    (a (.saveExecution e) s).1 = (b (.saveExecution e') t).1 ∧
    like (a (.saveExecution e) s).2 (b (.saveExecution e') t).2
  find : ∀ (id : String) {s t}, like s t →
    (a (.loadWorkflow id) s).1 = (b (.loadWorkflow id) t).1 ∧
    like (a (.loadWorkflow id) s).2 (b (.loadWorkflow id) t).2
  send : ∀ (request : Http.Request) {s t}, like s t →
    (a (.send request) s).1 = (b (.send request) t).1 ∧
    like (a (.send request) s).2 (b (.send request) t).2

section

variable {σ τ α β γ δ : Type} {a : Answerer σ} {b : Answerer τ} {like : σ → τ → Prop}

theorem Agree.symm (agree : Agree a b like) : Agree b a fun t s => like s t where
  aside := agree.aside'
  aside' := agree.aside
  load id _ _ alike := ⟨(agree.load id alike).1.symm, (agree.load id alike).2⟩
  save same alike := ⟨(agree.save same.symm alike).1.symm, (agree.save same.symm alike).2⟩
  find id _ _ alike := ⟨(agree.find id alike).1.symm, (agree.find id alike).2⟩
  send request _ _ alike := ⟨(agree.send request alike).1.symm, (agree.send request alike).2⟩

/-- Procedures that, run in like worlds, come to results of which something holds, and leave the same
behind and the worlds alike. -/
def Lockstep (a : Answerer σ) (b : Answerer τ) (like : σ → τ → Prop) (p : Proc α) (q : Proc β)
    (post : α → β → Prop) : Prop :=
  ∀ s t, like s t → post (p.run a s).1 (q.run b t).1 ∧ like (p.run a s).2 (q.run b t).2 ∧
    left (p.trace a s) = left (q.trace b t)

namespace Lockstep

theorem done {post : α → β → Prop} {x : α} {y : β} (h : post x y) :
    Lockstep a b like (.done x) (.done y) post :=
  fun _ _ alike => ⟨h, alike, rfl⟩

theorem bind {p : Proc α} {q : Proc β} {f : α → Proc γ} {g : β → Proc δ} {mid : α → β → Prop}
    {post : γ → δ → Prop} (first : Lockstep a b like p q mid)
    (next : ∀ x y, mid x y → Lockstep a b like (f x) (g y) post) :
    Lockstep a b like (p.bind f) (q.bind g) post := by
  intro s t alike
  obtain ⟨holds, alike, same⟩ := first s t alike
  obtain ⟨holds, alike, same'⟩ := next _ _ holds _ _ alike
  refine ⟨?_, ?_, ?_⟩
  · simpa only [run_bind] using holds
  · simpa only [run_bind] using alike
  · simp only [trace_bind, left_append, same, same']

/-- Calls that nobody sees, made on one side only. -/
theorem unseen_left (agree : Agree a b like) {p : Proc α} (h : p.Only Call.Unseen) {s : σ} {t : τ}
    (alike : like s t) : like (p.run a s).2 t ∧ left (p.trace a s) = [] := by
  induction p generalizing s with
  | done x => exact ⟨alike, rfl⟩
  | call c next ih =>
    obtain ⟨alike, nothing⟩ := ih _ (h.2 _) (agree.aside h.1.disregarded alike)
    refine ⟨alike, ?_⟩
    rw [trace, left_cons, nothing]
    cases c <;> first | exact h.1.elim | rfl

/-- Procedures of calls that nobody sees need not be the same. -/
theorem unseen (agree : Agree a b like) {p : Proc α} {q : Proc β} (h : p.Only Call.Unseen)
    (h' : q.Only Call.Unseen) : Lockstep a b like p q fun _ _ => True := by
  intro s t alike
  obtain ⟨alike, nothing⟩ := unseen_left agree h alike
  obtain ⟨alike, nothing'⟩ := unseen_left agree.symm h' alike
  exact ⟨trivial, alike, by rw [nothing, nothing']⟩

/-- What follows a call that nobody sees, on both sides. -/
theorem after_unseen {c c' : Call} {f : c.Answer → Proc γ} {g : c'.Answer → Proc δ}
    {post : γ → δ → Prop} (agree : Agree a b like) (h : c.Unseen) (h' : c'.Unseen)
    (next : ∀ x y, Lockstep a b like (f x) (g y) post) :
    Lockstep a b like ((ask c).bind f) ((ask c').bind g) post :=
  (unseen agree (Only.ask h) (Only.ask h')).bind fun x y _ => next x y

theorem append (agree : Agree a b like) (entry : LogEntry) :
    Lockstep a b like (ask (.appendLog entry)) (ask (.appendLog entry)) fun _ _ => True :=
  fun _ _ alike => ⟨trivial, agree.aside' trivial (agree.aside trivial alike), rfl⟩

theorem load (agree : Agree a b like) (id : String) :
    Lockstep a b like (ask (.loadExecution id)) (ask (.loadExecution id)) fun x y =>
      x.map (·.map (·.untimed)) = y.map (·.map (·.untimed)) :=
  fun _ _ alike => ⟨(agree.load id alike).1, (agree.load id alike).2, rfl⟩

theorem save (agree : Agree a b like) {e e' : Execution} (same : e.untimed = e'.untimed) :
    Lockstep a b like (ask (.saveExecution e)) (ask (.saveExecution e')) Eq := by
  intro s t alike
  refine ⟨(agree.save same alike).1, (agree.save same alike).2, ?_⟩
  have deed : (Deed.save e).untimed = (Deed.save e').untimed := congrArg Deed.save same
  simp only [ask, trace, left_cons, Exchange.deed?, Option.map_some, deed]

theorem find (agree : Agree a b like) {id id' : String} (same : id = id') :
    Lockstep a b like (ask (.loadWorkflow id)) (ask (.loadWorkflow id')) Eq := by
  subst same
  exact fun _ _ alike => ⟨(agree.find id alike).1, (agree.find id alike).2, rfl⟩

theorem send (agree : Agree a b like) (request : Http.Request) :
    Lockstep a b like (ask (.send request)) (ask (.send request)) Eq :=
  fun _ _ alike => ⟨(agree.send request alike).1, (agree.send request alike).2, rfl⟩

/-- A procedure of a node's calls is answered the same on both sides. -/
theorem node (agree : Agree a b like) {p : Proc α} (h : p.Only Call.OfNode) :
    Lockstep a b like p p Eq := by
  induction p with
  | done x => exact done rfl
  | call c next ih =>
    cases c with
    | write record => exact after_unseen agree trivial trivial fun x _ => ih x (h.2 x)
    | send request =>
      refine (send agree request).bind ?_
      rintro x y rfl
      exact ih x (h.2 x)
    | _ => exact h.1.elim

end Lockstep

/-- Results that differ in nothing but the times. -/
def SameUntimed (x y : Except Failure Execution) : Prop := x.map (·.untimed) = y.map (·.untimed)

variable (agree : Agree a b like)
include agree

/-- Whether the log takes an entry makes no difference to what follows. -/
theorem deliver_lockstep (entry : LogEntry) (node : String) :
    Lockstep a b like (deliver entry node) (deliver entry node) fun _ _ => True := by
  refine (Lockstep.append agree entry).bind fun taken taken' _ => .unseen agree ?_ ?_
  · cases taken <;> first | exact Only.done () | exact Only.ask trivial
  · cases taken' <;> first | exact Only.done () | exact Only.ask trivial

theorem visit_lockstep (run : RunContext) (outputs : Outputs) (node : Node) :
    Lockstep a b like (visit run outputs node) (visit run outputs node) Eq := by
  unfold visit
  split
  · exact .done rfl
  · refine (Lockstep.node agree (carryOut_only _)).bind ?_
    rintro handled _ rfl
    cases handled with
    | none => exact .after_unseen agree trivial trivial fun _ _ => .done rfl
    | some handled =>
      refine (Lockstep.node agree (writeOutcome_only (fun _ => trivial) node _)).bind fun _ _ _ => ?_
      exact (deliver_lockstep agree _ _).bind fun _ _ _ => .done rfl

theorem walkStack_lockstep (run : RunContext) (w : Walk) (stack : List String) :
    Lockstep a b like (walkStack run w stack) (walkStack run w stack) Eq := by
  induction w, stack using walkStack.induct run with
  | case1 w =>
    rw [walkStack]
    exact .done rfl
  | case2 w id rest seen ih =>
    rw [walkStack, dif_pos seen]
    exact ih
  | case3 w id rest new missing ih =>
    rw [walkStack, dif_neg new, missing]
    exact .after_unseen agree trivial trivial fun _ _ => ih
  | case4 w id rest new node found outgoing ih =>
    rw [walkStack, dif_neg new, found]
    refine (visit_lockstep agree run w.outputs node).bind ?_
    rintro visited _ rfl
    split
    · exact .done rfl
    · exact ih _ _

theorem walkFrom_lockstep {run run' : RunContext} (same : run = run') (w : Walk) (start : String) :
    Lockstep a b like (walkFrom run w start) (walkFrom run' w start) Eq := by
  rw [same]
  exact walkStack_lockstep agree run' w [start]

variable {settings : EngineSettings} {e e' : Execution}

theorem finish_lockstep (same : e.untimed = e'.untimed) (status : Status) :
    Lockstep a b like (finish e status) (finish e' status) SameUntimed := by
  refine .after_unseen agree trivial trivial fun now now' => ?_
  let ended : Execution := { e with status := status, endedAt := some now }
  let ended' : Execution := { e' with status := status, endedAt := some now' }
  have same' : ended.untimed = ended'.untimed :=
    congrArg (fun e : Execution => { e with status := status }) same
  refine (Lockstep.save agree same').bind ?_
  rintro saved _ rfl
  cases saved with
  | error failure => exact .done rfl
  | ok _ => exact .after_unseen agree trivial trivial fun _ _ => .done (congrArg Except.ok same')

theorem followWorkflow_lockstep (same : e.untimed = e'.untimed) (w : Workflow) :
    Lockstep a b like (followWorkflow settings e w) (followWorkflow settings e' w) SameUntimed := by
  have sameId : e.id = e'.id := congrArg (·.id) same
  unfold followWorkflow
  cases triggered : (Graph.ofWorkflow w).trigger? with
  | none =>
    simp only [triggered]
    exact .after_unseen agree trivial trivial fun _ _ => finish_lockstep agree same .failed
  | some trigger =>
    simp only [triggered]
    refine .after_unseen agree trivial trivial fun _ _ => ?_
    refine (walkFrom_lockstep agree (by rw [sameId]) _ _).bind ?_
    rintro ⟨failure, walk⟩ _ rfl
    cases failure with
    | some failure => exact .done rfl
    | none =>
      refine .after_unseen agree trivial trivial fun _ _ => finish_lockstep agree ?_ .completed
      split
      · exact congrArg (fun e : Execution => { e with outputs := some walk.outputs }) same
      · exact same

theorem carryOutExecution_lockstep (same : e.untimed = e'.untimed) :
    Lockstep a b like (carryOutExecution settings e) (carryOutExecution settings e') SameUntimed := by
  refine .after_unseen agree trivial trivial fun began began' => ?_
  let begun : Execution := { e with status := .running, startedAt := some began }
  let begun' : Execution := { e' with status := .running, startedAt := some began' }
  have same' : begun.untimed = begun'.untimed :=
    congrArg (fun e : Execution => { e with status := .running }) same
  have sameWorkflow : e.workflowId = e'.workflowId := congrArg (·.workflowId) same
  refine (Lockstep.save agree same').bind ?_
  rintro saved _ rfl
  cases saved with
  | error failure => exact .done rfl
  | ok _ =>
    refine (Lockstep.find agree sameWorkflow).bind ?_
    rintro loaded _ rfl
    cases loaded with
    | error failure => exact .done rfl
    | ok found =>
      cases found with
      | none => exact .after_unseen agree trivial trivial fun _ _ => finish_lockstep agree same' .failed
      | some w => exact followWorkflow_lockstep agree same' w

/-- A run comes to the same result on both sides and leaves the same behind, but for the times. -/
theorem runExecution_lockstep (settings : EngineSettings) (id : String) :
    Lockstep a b like (runExecution settings id) (runExecution settings id) fun x y =>
      x.map (·.map (·.untimed)) = y.map (·.map (·.untimed)) := by
  refine (Lockstep.load agree id).bind ?_
  rintro loaded loaded' same
  cases loaded with
  | error failure =>
    cases loaded' with
    | error failure' =>
      cases same
      exact .done rfl
    | ok found' => cases same
  | ok found =>
    cases loaded' with
    | error failure' => cases same
    | ok found' =>
      have same' : found.map (·.untimed) = found'.map (·.untimed) := Except.ok.inj same
      cases found with
      | none =>
        obtain rfl : found' = none := Option.map_eq_none_iff.mp same'.symm
        exact .after_unseen agree trivial trivial fun _ _ => .done rfl
      | some e =>
        obtain ⟨e', rfl, sameRecord⟩ := Option.map_eq_some_iff.mp same'.symm
        refine .after_unseen agree trivial trivial fun _ _ => ?_
        refine (carryOutExecution_lockstep agree sameRecord.symm).bind fun result result' ended => ?_
        refine .after_unseen agree trivial trivial fun _ _ => .done ?_
        have moved : ∀ result : Except Failure Execution,
            (result.map some).map (·.map (·.untimed)) = (result.map (·.untimed)).map some := by
          intro result
          cases result <;> rfl
        rw [moved, moved, ended]

end

end Automation
