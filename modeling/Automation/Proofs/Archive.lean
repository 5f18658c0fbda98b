import Automation.Proofs.Host
import Automation.Proofs.Procedure
import Mathlib.Data.List.Forall2
import Mathlib.Logic.Relation

/-!
What is written to the stores is read from them, whoever writes in between. The record of an execution is
the one that was saved last, except that a mapping which equals the one that is stored is not written over it;
the log of an execution has the entries that were added for it, in the order in which they were added. Clients
of the stores and runs of executions take turns, call by call.
-/
namespace Automation

/-- What an exchange with the stores leaves in them, unless it is refused. -/
def Exchange.done? : Exchange → Option Deed
  | ⟨.saveExecution e, .ok _⟩ => some (.save e)
  | ⟨.appendLog entry, .ok _⟩ => some (.log entry)
  | _ => none

/-- The records that were saved for an execution, in order. -/
def savesOf (id : String) (done : List Deed) : List Execution :=
  (done.filterMap Deed.saved?).filter (·.id == id)

/-- The record that was saved last for an execution. -/
def lastSaved? (id : String) (done : List Deed) : Option Execution := (savesOf id done).getLast?

/-- The entries that the log was given for an execution, in order. -/
def entriesFor (id : String) (done : List Deed) : List LogEntry :=
  (done.filterMap Deed.logged?).filter (·.executionId == id)

/-- Data that cannot be told from other data by comparing them, or none of either. -/
def SameData : Option (Fields Value) → Option (Fields Value) → Prop :=
  Option.Rel fun a b => (Value.dict a).equal (.dict b) = true

/-- What a column holds after some writes: what was written into it at one of them, to which everything that was
written since is equal. -/
def HeldOf (writes : List (Option (Fields Value))) (held : Option (Fields Value)) : Prop :=
  ∃ before since, writes = before ++ held :: since ∧ ∀ later ∈ since, SameData held later

namespace HeldOf

variable {writes : List (Option (Fields Value))} {held new : Option (Fields Value)}

/-- A first write is held as it is. -/
theorem of_single (h : HeldOf [new] held) : held = new := by
  obtain ⟨before, since, split, -⟩ := h
  cases before with
  | nil => exact (List.cons.inj split).1.symm
  | cons _ before => simp at split

/-- What is held is the last that was written, or was written before and is equal to it. -/
theorem of_concat (h : HeldOf (writes ++ [new]) held) : held = new ∨ held ∈ writes ∧ SameData held new := by
  obtain ⟨before, since, split, equals⟩ := h
  rcases List.eq_nil_or_concat since with rfl | ⟨front, last, rfl⟩
  · exact .inl (List.singleton_inj.mp (List.append_inj' split rfl).2).symm
  · rw [List.concat_eq_append, ← List.cons_append, ← List.append_assoc] at split
    obtain ⟨rfl, same⟩ := List.append_inj' split rfl
    obtain rfl := List.singleton_inj.mp same
    exact .inr ⟨by simp, equals new (by simp)⟩

/-- Where a mapping without fields was written last, a mapping without fields is held. -/
theorem of_concat_nil (h : HeldOf (writes ++ [some []]) held) : held = some [] := by
  rcases h.of_concat with rfl | ⟨-, same⟩
  · rfl
  · cases same with
    | some same =>
      rw [Value.equal, Bool.and_eq_true, beq_iff_eq, List.length_nil] at same
      rw [List.length_eq_zero_iff.mp same.1]

/-- Where nothing was written last, nothing is held. -/
theorem of_concat_none (h : HeldOf (writes ++ [none]) held) : held = none := by
  rcases h.of_concat with rfl | ⟨-, same⟩
  · rfl
  · cases same
    rfl

theorem concat (writes : List (Option (Fields Value))) (new : Option (Fields Value)) :
    HeldOf (writes ++ [new]) new := ⟨writes, [], rfl, by simp⟩

/-- A column is left as it is by what equals the data in it, and takes everything else. -/
theorem written (h : HeldOf writes held) (new : Option (Fields Value)) :
    HeldOf (writes ++ [new]) (Contents.written held new) := by
  have kept : SameData held new → HeldOf (writes ++ [new]) held := by
    intro same
    obtain ⟨before, since, rfl, equals⟩ := h
    refine ⟨before, since ++ [new], by simp, fun later there => ?_⟩
    rcases List.mem_append.mp there with there | there
    · exact equals later there
    · rwa [List.mem_singleton.mp there]
  unfold Contents.written
  split
  · split
    · next same => exact kept (.some same)
    · exact .concat writes _
  · exact .concat writes new

end HeldOf

/-- What is read of an execution after it was saved several times: the values that were saved last, the times
without their zones, and the mappings that its columns hold. -/
structure Execution.ReadAs (saves : List Execution) (saved read : Execution) : Prop where
  id : read.id = saved.id
  workflowId : read.workflowId = saved.workflowId
  status : read.status = saved.status
  context : HeldOf (saves.map fun e => some e.context) (some read.context)
  outputs : HeldOf (saves.map (·.outputs)) read.outputs
  first : saves = [saved] → read.context = saved.context ∧ read.outputs = saved.outputs
  noContext : saved.context = [] → read.context = []
  noOutputs : saved.outputs = none → read.outputs = none
  startedAt : read.startedAt = saved.startedAt.map Instant.zoneless
  endedAt : read.endedAt = saved.endedAt.map Instant.zoneless

/-- What is read of an entry that was added: its values, and a time if it had none. -/
structure LogEntry.ReadAs (added read : LogEntry) : Prop where
  executionId : read.executionId = added.executionId
  nodeId : read.nodeId = added.nodeId
  severity : read.severity = added.severity
  message : read.message = added.message
  data : read.data = added.data
  createdAt : ∃ t, read.createdAt = some t ∧ ∀ u ∈ added.createdAt, t = u.zoneless

/-- A host, the runs that are under way on it, and the deeds that its stores did not refuse. -/
structure Archive where
  host : Host
  runs : List (Proc (Except Failure (Option Execution))) := []
  done : List Deed := []

namespace Archive

/-- The host is asked a call. -/
def asked (a : Archive) (c : Call) : Archive where
  host := (Host.answer c a.host).2
  runs := a.runs
  done := a.done ++ (Exchange.done? ⟨c, (Host.answer c a.host).1⟩).toList

/-- An execution is created. -/
def created (a : Archive) (workflow : String) (context : Fields Value) : Archive where
  host := (a.host.createExecution workflow context).2
  runs := a.runs
  done := a.done ++ ((a.host.createExecution workflow context).1.toOption.map .save).toList

/-- What happens next: a client creates or saves an execution or adds an entry to a log, a run of an
execution is started, or a run that is under way makes its next call. -/
inductive Step : Archive → Archive → Prop
  | create {a} (workflow : String) (context : Fields Value) : Step a (a.created workflow context)
  | save {a} (e : Execution) : Step a (a.asked (.saveExecution e))
  | append {a} (entry : LogEntry) : Step a (a.asked (.appendLog entry))
  | start {a} (settings : EngineSettings) (id : String) :
      Step a { a with runs := a.runs ++ [runExecution settings id] }
  | turn {a i c next} (turn : a.runs[i]? = some (.call c next)) :
      Step a { a.asked c with runs := a.runs.set i (next (Host.answer c a.host).1) }

abbrev Steps : Archive → Archive → Prop := Relation.ReflTransGen Step

end Archive

/-- The row of an execution after it was saved several times. -/
structure ExecutionRow.Records (saves : List Execution) (row : ExecutionRow) (e : Execution) : Prop where
  last : ∃ before, saves = before ++ [e]
  id : row.id = e.id
  workflowId : row.workflowId = e.workflowId
  status : row.status = e.status.text
  context : HeldOf (saves.map fun e => some e.context) row.context
  outputs : HeldOf (saves.map (·.outputs)) row.outputs
  startedAt : row.startedAt = e.startedAt.map Instant.zoneless
  endedAt : row.endedAt = e.endedAt.map Instant.zoneless

theorem Contents.records_rowOf (saves : List Execution) (e : Execution) :
    (Contents.rowOf e).Records (saves ++ [e]) e := by
  refine ⟨⟨saves, rfl⟩, rfl, rfl, rfl, ?_, ?_, rfl, rfl⟩ <;> rw [List.map_append] <;> exact .concat _ _

theorem ExecutionRow.Records.over {saves : List Execution} {row : ExecutionRow} {last : Execution}
    (h : row.Records saves last) (e : Execution) : (Contents.rowOver row e).Records (saves ++ [e]) e := by
  refine ⟨⟨saves, rfl⟩, rfl, rfl, rfl, ?_, ?_, rfl, rfl⟩ <;> rw [List.map_append]
  · exact h.context.written _
  · exact h.outputs.written _

theorem Status.ofText?_text (s : Status) : ofText? s.text = some s := by
  cases s <;> decide

theorem ExecutionRow.Records.toExecution {saves : List Execution} {row : ExecutionRow} {e : Execution}
    (h : row.Records saves e) : ∃ read, row.toExecution = .ok read ∧ e.ReadAs saves read := by
  obtain ⟨⟨before, rfl⟩, id, workflowId, status, context, outputs, startedAt, endedAt⟩ := h
  obtain ⟨fields, column⟩ : ∃ fields, row.context = some fields := by
    obtain ⟨_, _, split, -⟩ := context
    have there : row.context ∈ (before ++ [e]).map fun e => some e.context := by simp [split]
    obtain ⟨other, -, same⟩ := List.mem_map.mp there
    exact ⟨_, same.symm⟩
  rw [column] at context
  refine ⟨⟨row.id, row.workflowId, e.status, fields, row.outputs, row.startedAt, row.endedAt⟩,
    by rw [ExecutionRow.toExecution, status, Status.ofText?_text, column, Option.getD_some], ?_⟩
  refine ⟨id, workflowId, rfl, context, outputs, fun only => ?_, fun none => ?_, fun none => ?_, startedAt,
    endedAt⟩
  · rw [only] at context outputs
    exact ⟨Option.some.inj context.of_single, outputs.of_single⟩
  · rw [List.map_append, List.map_singleton, none] at context
    exact Option.some.inj context.of_concat_nil
  · rw [List.map_append, List.map_singleton, none] at outputs
    exact outputs.of_concat_none

/-- The row of an entry that was added. -/
structure LogRow.Records (row : LogRow) (entry : LogEntry) : Prop where
  executionId : row.executionId = entry.executionId
  nodeId : row.nodeId = entry.nodeId
  severity : row.severity = entry.severity.text
  message : row.message = entry.message
  data : row.data = some entry.data
  createdAt : ∃ t, row.createdAt = some t ∧ ∀ u ∈ entry.createdAt, t = u.zoneless

theorem LogRow.records_ofEntry (key : Nat) (entry : LogEntry) (now : Instant) :
    (LogRow.ofEntry key entry now).Records entry := by
  refine ⟨rfl, rfl, rfl, rfl, rfl, _, rfl, ?_⟩
  intro u given
  rw [Option.mem_def.mp given]
  rfl

theorem LogRow.Records.toEntry {row : LogRow} {entry : LogEntry} (h : row.Records entry) :
    ∃ read, row.toEntry = .ok read ∧ entry.ReadAs read := by
  obtain ⟨executionId, nodeId, severity, message, data, createdAt⟩ := h
  refine ⟨⟨row.executionId, row.nodeId, entry.severity, row.message, row.data.getD [], row.createdAt⟩, ?_,
    executionId, nodeId, rfl, message, by rw [data]; rfl, createdAt⟩
  rw [LogRow.toEntry, severity]
  cases entry.severity <;> rfl

/-- The tables hold what was saved for every execution, and all entries in the order of the adding. -/
structure Contents.Keeps (c : Contents) (done : List Deed) : Prop where
  executions : ∀ id, Option.Rel (ExecutionRow.Records (savesOf id done)) (c.execution? id) (lastSaved? id done)
  log : List.Forall₂ LogRow.Records c.log (done.filterMap Deed.logged?)
  keys : c.log.Pairwise fun a b => a.key < b.key

namespace Contents

variable {c c' : Contents} {done : List Deed}

theorem savesOf_save (id : String) (done : List Deed) (e : Execution) :
    savesOf id (done ++ [.save e]) = if id = e.id then savesOf id done ++ [e] else savesOf id done := by
  have last : (done ++ [Deed.save e]).filterMap Deed.saved? = done.filterMap Deed.saved? ++ [e] :=
    List.filterMap_append
  rw [savesOf, last, List.filter_append]
  by_cases here : id = e.id
  · simp [here, savesOf]
  · simp [here, Ne.symm here, savesOf]

theorem savesOf_other {d : Deed} (none : d.saved? = none) (id : String) (done : List Deed) :
    savesOf id (done ++ [d]) = savesOf id done := by
  simp [savesOf, none]

theorem lt_nextKey {row : LogRow} (there : row ∈ c.log) : row.key < c.nextKey := by
  have bound : ∀ keys : List Nat, ∀ key ∈ keys, key ≤ keys.foldr max 0 := by
    intro keys
    induction keys with
    | nil => intro key there; cases there
    | cons first rest ih =>
      intro key there
      rcases List.mem_cons.mp there with rfl | there
      · exact Nat.le_max_left _ _
      · exact Nat.le_trans (ih key there) (Nat.le_max_right _ _)
  exact Nat.lt_succ_of_le (bound _ _ (List.mem_map_of_mem there))

/-- A row that is written holds what was saved; every other row stays as it is. -/
theorem Keeps.setExecution (h : c.Keeps done) {row : ExecutionRow} {e : Execution}
    (set : c.setExecution row = .ok c') (records : row.Records (savesOf e.id done ++ [e]) e) :
    c'.Keeps (done ++ [.save e]) := by
  refine ⟨fun id => ?_, ?_, ?_⟩
  · rw [execution?_setExecution set, lastSaved?, savesOf_save, records.id]
    split
    · next here =>
      rw [List.getLast?_concat, here]
      exact .some records
    · exact h.executions id
  · obtain ⟨-, rfl⟩ := setExecution_eq_ok_iff.mp set
    have none : (done ++ [Deed.save e]).filterMap Deed.logged? = done.filterMap Deed.logged? := by
      rw [List.filterMap_append]
      exact List.append_nil _
    rw [none]
    exact h.log
  · obtain ⟨-, rfl⟩ := setExecution_eq_ok_iff.mp set
    exact h.keys

theorem Keeps.addExecution (h : c.Keeps done) {e : Execution} (added : c.addExecution (rowOf e) = .ok c') :
    c'.Keeps (done ++ [.save e]) :=
  h.setExecution (addExecution_eq_ok_iff.mp added).1 (records_rowOf _ e)

theorem Keeps.putExecution (h : c.Keeps done) {e : Execution} (put : c.putExecution e = .ok c') :
    c'.Keeps (done ++ [.save e]) := by
  refine h.setExecution put ?_
  have stored := h.executions e.id
  split
  · next old there =>
    rw [there] at stored
    generalize lastSaved? e.id done = last? at stored
    cases stored with
    | some records => exact records.over e
  · exact records_rowOf _ e

theorem Keeps.addLog (h : c.Keeps done) {entry : LogEntry} {now : Instant}
    (added : c.addLog entry now = .ok c') : c'.Keeps (done ++ [.log entry]) := by
  unfold Contents.addLog at added
  split at added
  · cases added
  · cases added
    refine ⟨fun id => ?_, ?_, ?_⟩
    · rw [lastSaved?, savesOf_other rfl]
      exact h.executions id
    · rw [List.filterMap_append]
      exact List.rel_append h.log (.cons (LogRow.records_ofEntry _ entry now) .nil)
    · refine List.pairwise_append.mpr ⟨h.keys, List.pairwise_singleton _ _, fun row there last is => ?_⟩
      obtain rfl := List.mem_singleton.mp is
      exact lt_nextKey there

theorem mapM_toEntry {rows : List LogRow} {entries : List LogEntry}
    (records : List.Forall₂ LogRow.Records rows entries) :
    ∃ read, rows.mapM LogRow.toEntry = .ok read ∧ List.Forall₂ LogEntry.ReadAs entries read := by
  induction records with
  | nil => exact ⟨[], rfl, .nil⟩
  | cons records _ ih =>
    obtain ⟨first, is, same⟩ := records.toEntry
    obtain ⟨rest, are, same'⟩ := ih
    refine ⟨first :: rest, ?_, .cons same same'⟩
    rw [List.mapM_cons, is, are]
    rfl

/-- What the log of an execution reads as. -/
theorem Keeps.logOf (h : c.Keeps done) (id : String) :
    ∃ read, c.logOf id = .ok read ∧ List.Forall₂ LogEntry.ReadAs (entriesFor id done) read := by
  have mine : List.Forall₂ LogRow.Records (c.log.filter (·.executionId == id)) (entriesFor id done) := by
    refine List.rel_filter (fun row entry records => ?_) h.log
    simp only [records.executionId]
  have sorted : (c.log.filter (·.executionId == id)).mergeSort (fun a b => a.key ≤ b.key) =
      c.log.filter (·.executionId == id) :=
    List.mergeSort_of_pairwise ((h.keys.filter _).imp fun less => by simpa using Nat.le_of_lt less)
  rw [Contents.logOf, sorted]
  exact mapM_toEntry mine

end Contents

namespace Host

variable {h : Host} {c : Contents} {done : List Deed}

theorem database_send (request : Http.Request) (h : Host) : (h.send request).2.database = h.database := by
  simp only [send]
  split <;> rfl

theorem keeps_saveExecution (tables : h.database.contents = some c) (keeps : c.Keeps done) (e : Execution) :
    ∃ c', (h.saveExecution e).2.database.contents = some c' ∧
      c'.Keeps (done ++ (Exchange.done? ⟨.saveExecution e, (h.saveExecution e).1⟩).toList) := by
  rcases change_cases .debug s!"Saved execution {e.id} with status {e.status.text}" () .saveExecution
    (fun c => c.putExecution e) h with ⟨fault, h', -, refused, same⟩ | ⟨c', h', put, made, gained⟩
  · rw [saveExecution, refused]
    exact ⟨c, same ▸ tables, by simpa [Exchange.done?] using keeps⟩
  · obtain ⟨c₁, tables', put⟩ := Database.withTables_eq_ok_iff.mp put
    cases tables.symm.trans tables'
    rw [saveExecution, made]
    exact ⟨c', by rw [gained], keeps.putExecution put⟩

theorem keeps_appendLog (tables : h.database.contents = some c) (keeps : c.Keeps done) (entry : LogEntry) :
    ∃ c', (h.appendLog entry).2.database.contents = some c' ∧
      c'.Keeps (done ++ (Exchange.done? ⟨.appendLog entry, (h.appendLog entry).1⟩).toList) := by
  have asked : h.appendLog entry =
    h.readClock.2.change .appendLog fun c => c.addLog entry h.now := rfl
  cases outcome : h.readClock.2.database.withTables .appendLog (·.addLog entry h.now) with
  | error fault =>
    obtain ⟨h', refused, same⟩ := change_refused outcome
    rw [asked, refused]
    exact ⟨c, same ▸ tables, by simpa [Exchange.done?] using keeps⟩
  | ok c' =>
    obtain ⟨c₁, tables', added⟩ := Database.withTables_eq_ok_iff.mp outcome
    cases tables.symm.trans tables'
    rw [asked, change_made outcome]
    exact ⟨c', rfl, keeps.addLog added⟩

/-- The stores keep what a call leaves in them, unless they refuse it. -/
theorem keeps_answer (tables : h.database.contents = some c) (keeps : c.Keeps done) (call : Call) :
    ∃ c', (answer call h).2.database.contents = some c' ∧
      c'.Keeps (done ++ (Exchange.done? ⟨call, (answer call h).1⟩).toList) := by
  have nothing : ∀ h' : Host, h'.database = h.database →
      ∃ c', h'.database.contents = some c' ∧ c'.Keeps (done ++ []) :=
    fun h' same => ⟨c, same ▸ tables, by rwa [List.append_nil]⟩
  cases call with
  | saveExecution e => exact keeps_saveExecution tables keeps e
  | appendLog entry => exact keeps_appendLog tables keeps entry
  | loadExecution id => exact nothing _ (database_loadExecution id h)
  | loadWorkflow id => exact nothing _ (database_loadWorkflow id h)
  | send request => exact nothing _ (database_send request h)
  | readClock | write _ | enterContext _ | leaveContext => exact nothing _ rfl

theorem keeps_createExecution (tables : h.database.contents = some c) (keeps : c.Keeps done)
    (workflow : String) (context : Fields Value) :
    ∃ c', (h.createExecution workflow context).2.database.contents = some c' ∧
      c'.Keeps (done ++ ((h.createExecution workflow context).1.toOption.map .save).toList) := by
  rcases createExecution_cases workflow context h with ⟨f, h', refused, same⟩ | ⟨e, h', made, -, -, gained⟩
  · rw [refused]
    exact ⟨c, same ▸ tables, by simpa [Except.toOption] using keeps⟩
  · obtain ⟨c₁, c', tables', added, is⟩ := gained
    cases tables.symm.trans tables'
    rw [made]
    exact ⟨c', by rw [is], keeps.addExecution added⟩

end Host

namespace Archive

/-- The tables of the host hold what was done. -/
def Kept (a : Archive) : Prop := ∃ c, a.host.database.contents = some c ∧ c.Keeps a.done

variable {a b : Archive}

theorem Step.kept (step : Step a b) (kept : a.Kept) : b.Kept := by
  obtain ⟨c, tables, keeps⟩ := kept
  cases step with
  | create workflow context => exact Host.keeps_createExecution tables keeps workflow context
  | save e => exact Host.keeps_answer tables keeps (.saveExecution e)
  | append entry => exact Host.keeps_answer tables keeps (.appendLog entry)
  | start settings id => exact ⟨c, tables, keeps⟩
  | @turn _ call _ _ => exact Host.keeps_answer tables keeps call

theorem Steps.kept (steps : Steps a b) (kept : a.Kept) : b.Kept := by
  induction steps with
  | refl => exact kept
  | tail _ step ih => exact step.kept ih

end Archive

/-- Whatever clients of the stores and runs of executions have done, in whatever order, from empty tables on:
an execution is read as it was saved last, and not at all if it never was; and its log is read as the entries
that were added for it, in the order in which they were added. The times of an execution lose their zones, and
its context and its outputs are those that were saved last or equal ones that were saved before. -/
theorem stores_keep_what_was_done {a b : Archive} {c : Contents} (tables : a.host.database.contents = some c)
    (empty : c.executions = [] ∧ c.log = []) (start : a.done = []) (steps : Archive.Steps a b) (id : String) :
    (∃ read, (b.host.loadExecution id).1 = .ok read ∧
      Option.Rel (Execution.ReadAs (savesOf id b.done)) (lastSaved? id b.done) read) ∧
    ∃ read, (b.host.listLog id).1 = .ok read ∧ List.Forall₂ LogEntry.ReadAs (entriesFor id b.done) read := by
  have kept : a.Kept := by
    refine ⟨c, tables, ?_, ?_, ?_⟩
    · intro id
      rw [Contents.execution?, empty.1, start]
      exact .none
    · rw [empty.2, start]
      exact .nil
    · rw [empty.2]
      exact .nil
  obtain ⟨c', tables', keeps⟩ := Archive.Steps.kept steps kept
  rw [Host.loadExecution, Host.listLog, Host.query_eq tables', Host.query_eq tables']
  refine ⟨?_, keeps.logOf id⟩
  have row := keeps.executions id
  generalize c'.execution? id = row?, lastSaved? id b.done = last? at row
  cases row with
  | none => exact ⟨none, rfl, .none⟩
  | some records =>
    obtain ⟨read, is, same⟩ := records.toExecution
    refine ⟨some read, ?_, .some same⟩
    simp only [Option.mapM_some, is]
    rfl

/-- An execution is created, its log is given an entry, and a run of it is started and makes a call. -/
theorem stores_keep_what_was_done_started :
    let h : Host :=
      { database := { contents := some {} }, newId := fun _ => "e"
        network := fun _ _ => { answer := .error default }, now := default }
    let a : Archive := { host := h }
    ∃ b, Archive.Steps a b ∧ b.runs.length = 1 ∧
      (∃ read, (b.host.loadExecution "e").1 = .ok (some read) ∧ read.workflowId = "w") ∧
      ∃ read, (b.host.listLog "e").1 = .ok [read] ∧ read.message = "begun" := by
  intro h a
  let entry : LogEntry := { executionId := "e", severity := .info, message := "begun" }
  let started : Archive :=
    { ((a.created "w" []).asked (.appendLog entry)) with runs := [runExecution {} "e"] }
  obtain ⟨next, first⟩ : ∃ next, runExecution {} "e" = .call (.loadExecution "e") next := ⟨_, rfl⟩
  have there : started.runs[0]? = some (.call (.loadExecution "e") next) := congrArg some first
  have steps : Archive.Steps a _ :=
    .tail (.tail (.tail (.single (.create "w" [])) (.append entry)) (.start {} "e")) (.turn there)
  have tables : a.host.database.contents = some {} := rfl
  obtain ⟨⟨read, is, record⟩, entries, are, same⟩ :=
    stores_keep_what_was_done tables ⟨rfl, rfl⟩ rfl steps "e"
  change Option.Rel (Execution.ReadAs _) (some { id := "e", workflowId := "w" }) read at record
  change List.Forall₂ LogEntry.ReadAs [entry] entries at same
  obtain ⟨saved⟩ := record
  obtain ⟨⟩ | ⟨added, ⟨⟩⟩ := same
  exact ⟨_, steps, rfl, ⟨_, is, saved.workflowId⟩, _, are, added.message⟩

/-- A context that equals the stored one is not written over it, and a zone is not stored: an execution is
created and saved once more, and is read with the context that it was created with. -/
theorem equal_context_is_not_written :
    let h : Host :=
      { database := { contents := some {} }, newId := fun _ => "e"
        network := fun _ _ => { answer := .error default }, now := default }
    let a : Archive := { host := h }
    let began : Instant := ⟨0, some 120⟩
    let one : Double := .number false (Double.rankOfRatio 1 1)
    let e : Execution :=
      { id := "e", workflowId := "w", context := [("a", .float one)], startedAt := some began }
    let b := (a.created "w" [("a", .int 1)]).asked (.saveExecution e)
    let read := (b.host.loadExecution "e").1.toOption.join
    let contextText (e : Execution) := Json.write Json.compact (.dict e.context)
    Archive.Steps a b ∧ (lastSaved? "e" b.done).map contextText = some "\x7b\"a\":1.0\x7d" ∧
      (lastSaved? "e" b.done).bind (·.startedAt) = some began ∧
      read.map contextText = some "\x7b\"a\":1\x7d" ∧ read.bind (·.startedAt) = some ⟨0, none⟩ := by
  intro h a began one e b read contextText
  exact ⟨.tail (.single (.create "w" _)) (.save e), by decide +kernel⟩

end Automation
