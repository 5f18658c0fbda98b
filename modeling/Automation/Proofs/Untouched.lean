import Automation.Proofs.Documents
import Automation.Proofs.Host
import Automation.Proofs.Paths
import Automation.Service.Basic

/-!
What a request that fails leaves behind. Every step of an endpoint that fails has changed neither the
database nor the dispatcher, but one: the record of a run is made before the run is submitted, and stays
behind when the dispatcher takes nothing more.
-/
namespace Automation

namespace Service

/-- What a service stores and has taken. -/
structure Stock where
  database : Database
  dispatcher : Option Dispatcher
  taken : List String

namespace State

def stock (s : State) : Stock := ⟨s.host.database, s.dispatcher, s.taken⟩

end State

section

variable {α : Type} {s : State}

theorem stock_host (s : State) (h : Host) (kept : h.database = s.host.database) :
    ({ s with host := h } : State).stock = s.stock := by
  rw [State.stock, State.stock, ← kept]

theorem stock_onHost {act : Host → Except Failure α × Host}
    (kept : (act s.host).2.database = s.host.database) : (s.onHost act).2.stock = s.stock :=
  stock_host s _ kept

/-- Looking something up leaves everything as it was, found or not. -/
theorem stock_found (resource id : String) {act : Host → Except Failure (Option α) × Host}
    (kept : ∀ h, (act h).2.database = h.database) (s : State) :
    (found resource id act s).2.stock = s.stock := by
  have looked := stock_onHost (s := s) (kept s.host)
  unfold found
  generalize s.onHost act = outcome at looked ⊢
  rcases outcome with ⟨_ | _ | _, s₁⟩ <;> exact looked

theorem stock_logOf (id : String) (s : State) : (logOf id s).2.stock = s.stock := by
  have looked := stock_found "Execution" id (Host.database_loadExecution id) s
  unfold logOf
  generalize found "Execution" id (·.loadExecution id) s = outcome at looked ⊢
  rcases outcome with ⟨_ | _, s₁⟩
  · exact looked
  · have listed := stock_onHost (s := s₁) (Host.database_listLog id s₁.host)
    simp only
    generalize s₁.onHost (·.listLog id) = outcome at listed ⊢
    rcases outcome with ⟨_ | _, s₂⟩ <;> exact listed.trans looked

/-- A workflow is not registered and everything left as it was, or it is added to those stored. -/
theorem register_cases (w : Workflow) (s : State) :
    (∃ f s', register w s = (.error f, s') ∧ s'.stock = s.stock) ∨
    ∃ made s', register w s = (.ok made, s') ∧ s.host.database.Registers s'.host.database ∧
      s'.stock = { s.stock with database := s'.host.database } := by
  unfold register
  by_cases valid : (Graph.ofWorkflow w).validate.isValid
  · let told := s.write .info .endpoints s!"Registering workflow: {w.name}"
    let list := "; ".intercalate (Graph.ofWorkflow w).validate.warningTexts
    obtain ⟨s₁, warned⟩ : ∃ s₁, (if (Graph.ofWorkflow w).validate.warnings.isEmpty then told
      else told.write .warning .endpoints s!"Workflow validation warnings: {list}") = s₁ := ⟨_, rfl⟩
    have same : s₁.stock = s.stock := by
      rw [← warned]
      split <;> rfl
    simp only [valid, Bool.not_true, Bool.false_eq_true, if_false, told, list] at warned ⊢
    rw [warned]
    rcases Host.createWorkflow_cases w s₁.host with
      ⟨fault, h, -, refused, kept⟩ | ⟨c', h, added, made, database⟩
    · left
      have kept : ({ s₁ with host := h } : State).stock = s.stock :=
        (stock_host s₁ h kept).trans same
      simp only [State.onHost, refused]
      cases StoreOperation.storeWorkflow.failure fault with
      | engine e => exact ⟨_, _, rfl, kept⟩
      | _ => exact ⟨_, _, rfl, kept⟩
    · right
      obtain ⟨c, tables, added⟩ := Database.withTables_eq_ok_iff.mp added
      have gained : s₁.host.database.Registers h.database := ⟨c, c', _, w, _, tables, added, database⟩
      refine ⟨(s₁.host.idFor w, (Graph.ofWorkflow w).validate), { s₁ with host := h }, ?_, ?_, ?_⟩
      · simp only [State.onHost, made]
      · have before : s₁.host.database = s.host.database := congrArg Stock.database same
        rwa [← before]
      · show ({ s₁.stock with database := h.database } : Stock) = _
        rw [same]
  · simp only [valid, Bool.not_false, if_true, invalidGraph]
    exact .inl ⟨_, _, rfl, rfl⟩

/-- What comes of asking for a run. It fails and leaves everything as it was; or a pending execution is
stored, and the dispatcher takes it, or refuses it because it is shut down. -/
theorem queueRun_cases (workflow : String) (context : Fields Value) {d : Dispatcher}
    (started : s.dispatcher = some d) :
    (∃ f s', queueRun workflow context s = (.error f, s') ∧ s'.stock = s.stock) ∨
    ∃ e s', e.workflowId = workflow ∧ e.status = .pending ∧ s.host.database.Gains s'.host.database e ∧
      ((∃ d', d.submit e.id = .ok d' ∧ queueRun workflow context s = (.ok e, s') ∧
        s'.dispatcher = some d' ∧ s'.taken = s.taken ++ [e.id]) ∨
      d.isShutDown = true ∧ queueRun workflow context s = (.error (Dispatcher.refusal e.id), s') ∧
        s'.dispatcher = s.dispatcher ∧ s'.taken = s.taken) := by
  have looked := stock_found "Workflow" workflow (Host.database_loadWorkflow workflow) s
  unfold queueRun
  generalize found "Workflow" workflow (·.loadWorkflow workflow) s = outcome at looked ⊢
  rcases outcome with ⟨f | w, s₁⟩
  · exact .inl ⟨f, s₁, rfl, looked⟩
  have database : s₁.host.database = s.host.database := congrArg Stock.database looked
  have dispatcher : s₁.dispatcher = s.dispatcher := congrArg Stock.dispatcher looked
  have taken : s₁.taken = s.taken := congrArg Stock.taken looked
  rw [← database, ← dispatcher, ← taken]
  rw [← dispatcher] at started
  rcases Host.createExecution_cases workflow context s₁.host with
    ⟨f, h, refused, kept⟩ | ⟨e, h, made, ofWorkflow, pending, gained⟩
  · left
    refine ⟨f, { s₁ with host := h }, ?_, (stock_host s₁ h kept).trans looked⟩
    simp only [State.onHost, refused]
  right
  by_cases shut : d.isShutDown
  · have refused : d.submit e.id = .error (Dispatcher.refusal e.id) := if_pos shut
    obtain ⟨error, is, kind⟩ :
      ∃ error, Dispatcher.refusal e.id = .engine error ∧ isRefusal error = true := ⟨_, rfl, rfl⟩
    let message := s!"Could not queue execution for workflow {workflow}: {error.message}"
    refine ⟨e, { s₁ with host := h }.write .error .endpoints message, ofWorkflow, pending, gained,
      .inr ⟨shut, ?_, rfl, rfl⟩⟩
    simp only [State.onHost, made, submit, started, refused, is, kind, if_true]
    rfl
  · obtain ⟨d', accepted⟩ : ∃ d', d.submit e.id = .ok d' := ⟨_, if_neg shut⟩
    let message := s!"Queued execution {e.id} for workflow {workflow}"
    let s₂ : State :=
      ⟨s₁.config, h.write (Dispatcher.submittedNote e.id), some d', s₁.taken ++ [e.id]⟩
    refine ⟨e, s₂.write .info .endpoints message, ofWorkflow, pending, gained,
      .inl ⟨d', accepted, ?_, rfl, rfl⟩⟩
    simp only [State.onHost, made, submit, started, accepted]
    rfl

/-- The answer of a step leaves everything as it was after the step. -/
theorem stock_conclude (status : Nat) (show' : α → Value) (outcome : Except Failure α × State) :
    (conclude status show' outcome).2.stock = outcome.2.stock := by
  rcases outcome with ⟨f | _, s⟩
  · cases f <;> rfl
  · rfl

end

/-- What is left behind when a run is asked for after the dispatcher was shut down: the record of a pending
execution, which the dispatcher does not know of. -/
structure LeftBehind (request : Request) (answer : Answer) (before after : Stock) (e : Execution) :
    Prop where
  asked : Resource.locate? request.path = some (.runs e.workflowId)
  shut : ∃ d, before.dispatcher = some d ∧ d.isShutDown = true
  status : answer.status = 503
  pending : e.status = .pending
  gained : before.database.Gains after.database e
  dispatcher : after.dispatcher = before.dispatcher
  taken : after.taken = before.taken

/-- What a request does to what a service stores and has taken: nothing; a workflow is stored, or an
execution is stored that the dispatcher takes, and the answer is no error; or the dispatcher does not take
the execution. -/
inductive Effect (request : Request) (before after : Stock) : Result → Prop
  | none {result} (same : after = before) : Effect request before after result
  | registered {answer} (fine : answer.status < 400) (gained : before.database.Registers after.database)
      (same : after = { before with database := after.database }) :
      Effect request before after (.answered answer)
  | queued {answer e d d'} (fine : answer.status < 400) (running : before.dispatcher = some d)
      (accepted : d.submit e.id = .ok d') (gained : before.database.Gains after.database e)
      (dispatcher : after.dispatcher = some d') (taken : after.taken = before.taken ++ [e.id]) :
      Effect request before after (.answered answer)
  | leftBehind {answer e} (left : LeftBehind request answer before after e) :
      Effect request before after (.answered answer)

section

variable {s : State} {request : Request} {method : String} {body : Value} {r : Resource}

/-- A run is asked for at the runs of its workflow only. -/
theorem resource_of_run {workflow : String} {context : Fields Value}
    (asked : taskOf method body r = .good (.run workflow context)) : r = .runs workflow := by
  cases r with
  | workflows =>
    rw [taskOf] at asked
    split at asked
    · obtain ⟨w, -, other⟩ := Document.Checked.map_good_iff.mp asked
      cases other
    · cases asked
  | runs id =>
    obtain ⟨read, -, same⟩ := Document.Checked.map_good_iff.mp asked
    cases same
    rfl
  | _ => cases asked

theorem perform_effect {task : Task} {d : Dispatcher}
    (asked : taskOf method body r = .good task) (located : Resource.locate? request.path = some r)
    (started : s.dispatcher = some d) :
    Effect request s.stock (perform task s).2.stock (perform task s).1 := by
  cases task with
  | greet | tellHealth | tellLoad => exact .none rfl
  | listWorkflows =>
    exact .none ((stock_conclude _ _ _).trans (stock_onHost (Host.database_listWorkflows _)))
  | showWorkflow id =>
    exact .none ((stock_conclude _ _ _).trans (stock_found _ _ (Host.database_loadWorkflow id) s))
  | showExecution id =>
    exact .none ((stock_conclude _ _ _).trans (stock_found _ _ (Host.database_loadExecution id) s))
  | showLog id => exact .none ((stock_conclude _ _ _).trans (stock_logOf id s))
  | register w =>
    rcases register_cases w s with ⟨f, s', refused, kept⟩ | ⟨made, s', done, gained, same⟩
    · rw [perform, refused]
      exact .none ((stock_conclude _ _ _).trans kept)
    · rw [perform, done]
      exact .registered (show 201 < 400 by decide) gained same
  | run workflow context =>
    obtain rfl := resource_of_run asked
    rcases queueRun_cases workflow context started with ⟨f, s', failed, kept⟩ |
      ⟨e, s', rfl, pending, gained, ⟨d', accepted, done, dispatcher, taken⟩ |
        ⟨shut, refused, dispatcher, taken⟩⟩
    · rw [perform, failed]
      exact .none ((stock_conclude _ _ _).trans kept)
    · rw [perform, done]
      exact .queued (show 202 < 400 by decide) started accepted gained dispatcher taken
    · rw [perform, refused]
      exact .leftBehind ⟨located, ⟨d, started, shut⟩, rfl, pending, gained, dispatcher, taken⟩

/-- Whoever asks at a resource of which no part is missing has a dispatcher, or asks for nothing that is
stored or taken. -/
theorem started_or_trivial (present : missingComponent? r s = none) :
    (∃ d, s.dispatcher = some d) ∨ r = .root ∨ r = .health := by
  unfold missingComponent? at present
  cases started : s.dispatcher with
  | some d => exact .inl ⟨d, rfl⟩
  | none => cases r <;> simp_all [components]

theorem atResource_effect (located : Resource.locate? request.path = some r) :
    Effect request s.stock (atResource request r s).2.stock (atResource request r s).1 := by
  unfold atResource
  split
  · exact .none rfl
  · split
    · exact .none rfl
    · rename_i present
      split
      · exact .none rfl
      · rename_i asked
        rcases started_or_trivial present with ⟨d, started⟩ | rfl | rfl
        · exact perform_effect asked located started
        · cases asked
          exact .none rfl
        · cases asked
          exact .none rfl

theorem route_effect (request : Request) (s : State) :
    Effect request s.stock (route request s).2.stock (route request s).1 := by
  unfold route
  split
  · exact .none rfl
  · split
    · exact atResource_effect ‹_›
    · exact .none rfl

/-- The journal that is kept of a request is neither stored nor taken. -/
theorem handle_effect (request : Request) (took : Duration) (s : State) : ∃ result now,
    (s.handle request took).1 = answerOf request now result ∧
      Effect request s.stock (s.handle request took).2.stock result := by
  let opened : State := { s with host := { s.host with tape := s.host.tape.performAll (opening request) } }
  have effect := route_effect request opened
  exact ⟨(route request opened).1, (route request opened).2.host.now, rfl, effect⟩

end

/-- A request that is answered with an error has stored nothing and given the dispatcher nothing, in any
state of a service; but for one that asks for a run when the dispatcher is shut down already: it leaves the
record of a pending execution behind. And a request that leaves the record of an execution behind has given
the execution to the dispatcher, but for those. -/
theorem error_leaves_nothing (request : Request) (took : Duration) (s : State) :
    let answer := (s.handle request took).1
    let after := (s.handle request took).2
    (400 ≤ answer.status →
      after.stock = s.stock ∨ ∃ e, LeftBehind request answer s.stock after.stock e) ∧
    ∀ id, s.host.database.execution? id = none → after.host.database.execution? id ≠ none →
      (∃ d d', s.dispatcher = some d ∧ d.submit id = .ok d' ∧ after.dispatcher = some d' ∧
        id ∈ after.taken) ∨
      ∃ e, e.id = id ∧ LeftBehind request answer s.stock after.stock e := by
  intro answer after
  obtain ⟨result, now, told, effect⟩ := handle_effect request took s
  have effect : Effect request s.stock after.stock result := effect
  have told : answer = answerOf request now result := told
  have gained : ∀ {e id}, s.stock.database.Gains after.stock.database e →
      s.host.database.execution? id = none → after.host.database.execution? id ≠ none → e.id = id := by
    intro e id gained new there
    by_contra other
    have kept : after.host.database.execution? id = s.host.database.execution? id :=
      (gained.execution? id).trans (if_neg (Ne.symm other))
    exact there (kept.trans new)
  cases effect with
  | none same =>
    refine ⟨fun _ => .inl same, fun id new there => absurd new ?_⟩
    have database : after.host.database = s.host.database := congrArg Stock.database same
    rwa [database] at there
  | registered fine gained =>
    have succeeded : answer.status < 400 := by rwa [told]
    refine ⟨fun failed => absurd succeeded (Nat.not_lt_of_le failed), fun id new there => absurd new ?_⟩
    have same : after.host.database.execution? id = s.host.database.execution? id := gained.execution? id
    rwa [same] at there
  | queued fine running accepted grown dispatcher taken =>
    have succeeded : answer.status < 400 := by rwa [told]
    refine ⟨fun failed => absurd succeeded (Nat.not_lt_of_le failed), fun id new there => ?_⟩
    obtain rfl := gained grown new there
    have last : after.taken = _ := taken
    exact .inl ⟨_, _, running, accepted, dispatcher, last ▸ List.mem_concat_self⟩
  | leftBehind left =>
    rw [told]
    exact ⟨fun _ => .inr ⟨_, left⟩, fun id new there => .inr ⟨_, gained left.gained new there, left⟩⟩

/-- A service stores a workflow, is shut down, and is asked for a run of the workflow. The answer is an error,
and there is an execution that there was not before. -/
theorem refused_run_is_stored :
    let host : Host :=
      { database := { contents := some {} }, newId := fun n => if n = 0 then "w" else "e"
        network := fun _ _ => { answer := .error default }, now := default }
    let started : State := { config := {}, host, dispatcher := some { maxWorkers := 1 } }
    let storing : Request :=
      { id := "q", method := "POST", path := Resource.workflows.path
        body := "\x7b\"workflow\": \x7b\"name\": \"W\"\x7d\x7d" }
    let stored := started.handle storing default
    let request : Request := { id := "r", method := "POST", path := (Resource.runs "w").path }
    let done := (shutDown stored.2).handle request default
    stored.1.status = 201 ∧ done.1.status = 503 ∧
      ¬(stored.2.host.database.execution? "e").isSome ∧ (done.2.host.database.execution? "e").isSome ∧
      done.2.dispatcher = some { maxWorkers := 1, active := [], isShutDown := true } := by
  intro host started storing stored request done
  have workflows : Resource.locate? storing.path = some .workflows := Resource.locate?_path trivial
  have runs : Resource.locate? request.path = some (.runs "w") :=
    Resource.locate?_path ⟨by decide, by decide⟩
  simp only [done, stored, State.handle, route, workflows, runs]
  exact ⟨by decide +kernel, by decide +kernel, by decide +kernel, by decide +kernel, by decide +kernel⟩

end Service
end Automation
