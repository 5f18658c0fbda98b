import Automation.Proofs.Fields
import Automation.Store.Host

/-!
What the uses of a database do to it. Looking something up changes nothing; a change is refused and changes
nothing, or it is made. A workflow or an execution that is stored leaves all others as they were.
-/
namespace Automation

/-- What a row of executions is added to or written into. -/
theorem Contents.setExecution_eq_ok_iff {c c' : Contents} {row : ExecutionRow} :
    c.setExecution row = .ok c' ↔
      row.fault? = none ∧ c' = { c with executions := Fields.insert row.id row c.executions } := by
  unfold setExecution
  cases row.fault? <;> simp [eq_comm]

theorem Contents.addExecution_eq_ok_iff {c c' : Contents} {row : ExecutionRow} :
    c.addExecution row = .ok c' ↔ c.setExecution row = .ok c' ∧ c.execution? row.id = none := by
  unfold addExecution
  cases c.setExecution row with
  | error fault => simp [bind, Except.bind]
  | ok added =>
    simp only [bind, Except.bind]
    cases c.execution? row.id <;> simp

theorem Contents.execution?_setExecution {c c' : Contents} {row : ExecutionRow}
    (set : c.setExecution row = .ok c') (id : String) :
    c'.execution? id = if id = row.id then some row else c.execution? id := by
  obtain ⟨-, rfl⟩ := setExecution_eq_ok_iff.mp set
  exact Fields.get?_insert row.id id row c.executions

/-- A workflow that is stored adds its rows to those of others and changes nothing else. -/
theorem Contents.addWorkflow_eq_ok_iff {c c' : Contents} {id : String} {w : Workflow} {now : Instant} :
    c.addWorkflow id w now = .ok c' ↔
      id ∉ c.workflows.map (·.id) ∧ w.nodes.findSome? (StoreFault.ofData? ·.settings) = none ∧
      c' = { c with
        workflows := c.workflows ++ [⟨id, w.name, w.description, now⟩]
        nodes := c.nodes ++ w.nodes.mapIdx (NodeRow.ofNode id)
        edges := c.edges ++ w.edges.mapIdx (EdgeRow.ofEdge id) } := by
  have used : c.workflows.any (·.id == id) = true ↔ id ∈ c.workflows.map (·.id) := by simp
  unfold addWorkflow
  by_cases there : id ∈ c.workflows.map (·.id)
  · simp only [used.mpr there, if_true, there, not_true, false_and, reduceCtorEq]
  · simp only [mt used.mp there, there, not_false_iff, true_and]
    cases w.nodes.findSome? (StoreFault.ofData? ·.settings) <;> simp [eq_comm]

theorem Database.withTables_eq_ok_iff {α : Type} {d : Database} {op : StoreOperation}
    {act : Contents → Except StoreFault α} {a : α} :
    d.withTables op act = .ok a ↔ ∃ c, d.contents = some c ∧ act c = .ok a := by
  unfold withTables
  cases d.contents <;> simp

/-- A database that has one execution more than another, and nothing else. -/
def Database.Gains (before after : Database) (e : Execution) : Prop :=
  ∃ c c', before.contents = some c ∧ c.addExecution (Contents.rowOf e) = .ok c' ∧
    after = { contents := some c' }

/-- A database that has one workflow more than another, and nothing else. -/
def Database.Registers (before after : Database) : Prop :=
  ∃ c c' id w now, before.contents = some c ∧ c.addWorkflow id w now = .ok c' ∧
    after = { contents := some c' }

/-- The record of an execution. -/
def Database.execution? (d : Database) (id : String) : Option ExecutionRow :=
  d.contents.bind (·.execution? id)

theorem Database.Gains.execution? {before after : Database} {e : Execution} (gained : before.Gains after e)
    (id : String) : after.execution? id =
      if id = e.id then some (Contents.rowOf e) else before.execution? id := by
  obtain ⟨c, c', tables, added, rfl⟩ := gained
  simp only [Database.execution?, tables, Option.bind_some]
  exact Contents.execution?_setExecution (Contents.addExecution_eq_ok_iff.mp added).1 id

theorem Database.Registers.execution? {before after : Database} (gained : before.Registers after)
    (id : String) : after.execution? id = before.execution? id := by
  obtain ⟨c, c', workflow, w, now, tables, added, rfl⟩ := gained
  obtain ⟨-, -, rfl⟩ := Contents.addWorkflow_eq_ok_iff.mp added
  simp only [Database.execution?, tables]
  rfl

namespace Host

variable {α : Type}

@[simp] theorem database_write (record : Journal.Record) (h : Host) :
    (h.write record).database = h.database := rfl

/-- A refused operation fails and leaves the database as it was. -/
theorem refuse_eq (op : StoreOperation) (fault : StoreFault) (h : Host) :
    ∃ h' : Host, h.refuse (α := α) op fault = (.error (op.failure fault), h') ∧
      h'.database = h.database := by
  refine ⟨_, rfl, ?_⟩
  cases op.faultNote fault <;> rfl

theorem query_eq {h : Host} {c : Contents} (tables : h.database.contents = some c) (op : StoreOperation)
    (act : Contents → Except Failure α) : h.query op act = (act c, h) := by
  simp only [query, Database.withTables, tables]

theorem database_query (op : StoreOperation) (act : Contents → Except Failure α) (h : Host) :
    (h.query op act).2.database = h.database := by
  unfold query
  split
  · rfl
  · next fault _ =>
    obtain ⟨h', refused, kept⟩ := refuse_eq (α := α) op fault h
    rw [refused, kept]

/-- A refused change fails and changes nothing. -/
theorem change_refused {op : StoreOperation} {act : Contents → Except StoreFault Contents} {h : Host}
    {fault : StoreFault} (refused : h.database.withTables op act = .error fault) :
    ∃ h', h.change op act = (.error (op.failure fault), h') ∧ h'.database = h.database := by
  rw [change, refused]
  exact refuse_eq op fault h

theorem change_made {op : StoreOperation} {act : Contents → Except StoreFault Contents} {h : Host}
    {c : Contents} (made : h.database.withTables op act = .ok c) :
    h.change op act = (.ok (), { h with database := { contents := some c } }) := by
  rw [change, made]

/-- A change is refused and changes nothing, or it is made and noted. -/
theorem change_cases (level : Journal.Level) (message : String) (value : α) (op : StoreOperation)
    (act : Contents → Except StoreFault Contents) (h : Host) :
    (∃ fault h', h.database.withTables op act = .error fault ∧
      noteDone level message value (h.change op act) = (.error (op.failure fault), h') ∧
      h'.database = h.database) ∨
    ∃ c h', h.database.withTables op act = .ok c ∧
      noteDone level message value (h.change op act) = (.ok value, h') ∧
      h'.database = { contents := some c } := by
  cases outcome : h.database.withTables op act with
  | error fault =>
    obtain ⟨h', refused, kept⟩ := change_refused outcome
    exact .inl ⟨fault, h', rfl, by rw [refused, noteDone], kept⟩
  | ok c => exact .inr ⟨c, _, rfl, by rw [change_made outcome, noteDone], rfl⟩

theorem database_loadWorkflow (id : String) (h : Host) : (h.loadWorkflow id).2.database = h.database :=
  database_query _ _ _

theorem database_listWorkflows (h : Host) : h.listWorkflows.2.database = h.database := by
  have kept := database_query .listWorkflows (fun c => .ok c.summaries) h
  unfold listWorkflows
  split <;> simp_all

theorem database_loadExecution (id : String) (h : Host) : (h.loadExecution id).2.database = h.database :=
  database_query _ _ _

theorem database_listLog (id : String) (h : Host) : (h.listLog id).2.database = h.database :=
  database_query _ _ _

/-- The id under which a workflow is stored: its own, or a new one. -/
def idFor (w : Workflow) (h : Host) : String :=
  match w.id with
  | some id => if id = "" then h.newId h.drawn else id
  | none => h.newId h.drawn

theorem createWorkflow_eq (w : Workflow) (h : Host) :
    ∃ h₁ : Host, h₁.database = h.database ∧
      h.createWorkflow w = noteDone .info s!"Stored workflow '{w.name}' with ID: {h.idFor w}" (h.idFor w)
        (h₁.change .storeWorkflow fun c => c.addWorkflow (h.idFor w) w h.now) := by
  unfold createWorkflow idFor
  cases w.id with
  | none => exact ⟨h.drawId.2.readClock.2, rfl, rfl⟩
  | some id =>
    by_cases empty : id = ""
    · simp only [empty, if_true]
      exact ⟨h.drawId.2.readClock.2, rfl, rfl⟩
    · simp only [empty, if_false]
      exact ⟨h.readClock.2, rfl, rfl⟩

/-- A workflow is refused and the database left as it was, or it is added under its id. -/
theorem createWorkflow_cases (w : Workflow) (h : Host) :
    (∃ fault h', h.database.withTables .storeWorkflow (·.addWorkflow (h.idFor w) w h.now) = .error fault ∧
      h.createWorkflow w = (.error (StoreOperation.storeWorkflow.failure fault), h') ∧
      h'.database = h.database) ∨
    ∃ c h', h.database.withTables .storeWorkflow (·.addWorkflow (h.idFor w) w h.now) = .ok c ∧
      h.createWorkflow w = (.ok (h.idFor w), h') ∧ h'.database = { contents := some c } := by
  obtain ⟨h₁, same, made⟩ := createWorkflow_eq w h
  rw [made, ← same]
  exact change_cases _ _ _ _ _ h₁

/-- The record of an execution is refused and the database left as it was, or a pending one is added. -/
theorem createExecution_cases (workflow : String) (context : Fields Value) (h : Host) :
    (∃ f h', h.createExecution workflow context = (.error f, h') ∧ h'.database = h.database) ∨
    ∃ e h', h.createExecution workflow context = (.ok e, h') ∧ e.workflowId = workflow ∧
      e.status = .pending ∧ h.database.Gains h'.database e := by
  let e : Execution := { id := h.drawId.1, workflowId := workflow, context }
  rcases change_cases .info s!"Created execution {e.id} for workflow {workflow}" e .createExecution
    (fun c => c.addExecution (Contents.rowOf e)) h.drawId.2 with
    ⟨fault, h', -, refused, kept⟩ | ⟨c', h', added, made, gained⟩
  · exact .inl ⟨_, h', refused, kept⟩
  · obtain ⟨c, tables, added⟩ := Database.withTables_eq_ok_iff.mp added
    exact .inr ⟨e, h', made, rfl, rfl, c, c', tables, added, gained⟩

end Host
end Automation
