import Automation.Proofs.Documents
import Automation.Proofs.Host

/-!
The store of workflows is a map that is written once. A workflow is taken apart into rows of three tables
and put together again as it was, in the order in which it has its nodes and edges; the tables hold the rows
of the workflows that were stored, and no others.
-/
namespace Automation

open Document

/-- A workflow that the checks of documents let through. -/
def Workflow.Accepted (w : Workflow) : Prop := ∃ origin doc, readWorkflow origin doc = .good w

theorem Workflow.Accepted.name {w : Workflow} (accepted : w.Accepted) :
    workflowName w.name = .good w.name := by
  obtain ⟨origin, doc, read⟩ := accepted
  exact name_of_readWorkflow read

theorem Workflow.Accepted.nodes {w : Workflow} (accepted : w.Accepted) {n : Node} (there : n ∈ w.nodes) :
    ∃ fields, readNode fields = .good n := by
  obtain ⟨origin, doc, read⟩ := accepted
  exact of_mem_read (lists_of_readWorkflow read).1 there

theorem NodeRow.toNode_ofNode {fields : Fields Value} {n : Node} (accepted : readNode fields = .good n)
    (workflow : String) (i : Nat) : (NodeRow.ofNode workflow i n).toNode = .ok n := by
  simp only [toNode, ofNode, Option.getD_some, readNode_again accepted]
  rfl

theorem EdgeRow.toEdge_ofEdge (workflow : String) (i : Nat) (e : Edge) :
    (EdgeRow.ofEdge workflow i e).toEdge = .ok e := by
  simp only [toEdge, ofEdge, readEdge_again]
  rfl

/-- Rows with their places are turned back into what they were made of. -/
theorem mapM_mapIdx {α ρ : Type} {xs : List α} {write : Nat → α → ρ} {read : ρ → Except Failure α}
    (back : ∀ i, ∀ x ∈ xs, read (write i x) = .ok x) : (xs.mapIdx write).mapM read = .ok xs := by
  induction xs generalizing write with
  | nil => rfl
  | cons x xs ih =>
    have rest : (xs.mapIdx fun i => write (i + 1)).mapM read = .ok xs :=
      ih fun i y there => back (i + 1) y (List.mem_cons_of_mem x there)
    rw [List.mapIdx_cons, List.mapM_cons, back 0 x List.mem_cons_self, rest]
    rfl

/-- A stored workflow with the time of the storing. -/
structure Kept where
  workflow : Workflow
  createdAt : Instant

namespace Kept

def row (id : String) (k : Kept) : WorkflowRow := ⟨id, k.workflow.name, k.workflow.description, k.createdAt⟩

def nodeRows (id : String) (k : Kept) : List NodeRow := k.workflow.nodes.mapIdx (NodeRow.ofNode id)

def edgeRows (id : String) (k : Kept) : List EdgeRow := k.workflow.edges.mapIdx (EdgeRow.ofEdge id)

/-- The workflow as it is loaded. -/
def loaded (id : String) (k : Kept) : Workflow := { k.workflow with id := some id }

/-- The workflow as it is listed. -/
def summary (id : String) (k : Kept) : WorkflowSummary where
  id
  name := k.workflow.name
  description := k.workflow.description.getD ""
  createdAt := some k.createdAt
  nodeCount := k.workflow.nodes.length

end Kept

/-- The tables hold the rows of some workflows, and no others. -/
structure Contents.Holds (c : Contents) (kept : Fields Kept) : Prop where
  distinct : kept.keys.Nodup
  workflows : c.workflows = kept.map fun p => p.2.row p.1
  nodes : c.nodes = kept.flatMap fun p => p.2.nodeRows p.1
  edges : c.edges = kept.flatMap fun p => p.2.edgeRows p.1

section

variable {α ρ : Type} (items : Kept → List α) {write : String → Nat → α → ρ} {owner : ρ → String}
  {place : ρ → Nat} {kept : Fields Kept} {id : String}

theorem filter_mapIdx (owned : ∀ id i x, owner (write id i x) = id) (key id : String) (xs : List α) :
    (xs.mapIdx (write key)).filter (owner · == id) = if id = key then xs.mapIdx (write key) else [] := by
  have mine : ∀ row ∈ xs.mapIdx (write key), owner row = key := by
    intro row there
    obtain ⟨i, _, rfl⟩ := List.mem_mapIdx.mp there
    exact owned key i _
  split
  · next here => exact List.filter_eq_self.mpr fun row there => by simp [mine row there, here]
  · next other => exact List.filter_eq_nil_iff.mpr fun row there => by simp [mine row there, Ne.symm other]

/-- The rows of one workflow among those of all. -/
theorem filter_rows (owned : ∀ id i x, owner (write id i x) = id) (distinct : kept.keys.Nodup)
    (id : String) : (kept.flatMap fun p => (items p.2).mapIdx (write p.1)).filter (owner · == id) =
      ((kept.get? id).map fun k => (items k).mapIdx (write id)).getD [] := by
  induction kept with
  | nil => rfl
  | cons p kept ih =>
    obtain ⟨key, k⟩ := p
    obtain ⟨new, distinct⟩ := List.nodup_cons.mp distinct
    rw [List.flatMap_cons, List.filter_append, ih distinct, filter_mapIdx owned, Fields.get?_cons]
    by_cases here : id = key
    · subst here
      have none : Fields.get? kept id = none := Fields.get?_eq_none_iff.mpr new
      simp only [if_true, none, Option.map_none, Option.map_some, Option.getD_none, Option.getD_some,
        List.append_nil]
    · simp only [if_neg here, List.nil_append]

/-- The rows of a workflow come in the order in which they were written. -/
theorem rowsOf_written (owned : ∀ id i x, owner (write id i x) = id)
    (placed : ∀ id i x, place (write id i x) = i) (distinct : kept.keys.Nodup) {k : Kept}
    (there : kept.get? id = some k) :
    Contents.rowsOf owner place (kept.flatMap fun p => (items p.2).mapIdx (write p.1)) id =
      (items k).mapIdx (write id) := by
  rw [Contents.rowsOf, filter_rows items owned distinct, there]
  refine List.mergeSort_of_pairwise (List.pairwise_iff_getElem.mpr fun i j hi hj less => ?_)
  simp only [Option.map_some, Option.getD_some, List.getElem_mapIdx, placed, decide_eq_true_eq]
  omega

end

namespace Contents.Holds

variable {c : Contents} {kept : Fields Kept} {id : String}

theorem nodesOf (h : c.Holds kept) {k : Kept} (there : kept.get? id = some k) :
    c.nodesOf id = k.nodeRows id := by
  have owned : ∀ id i n, (NodeRow.ofNode id i n).workflow = id := fun _ _ _ => rfl
  have placed : ∀ id i n, (NodeRow.ofNode id i n).position = i := fun _ _ _ => rfl
  rw [Contents.nodesOf, h.nodes]
  exact rowsOf_written (·.workflow.nodes) owned placed h.distinct there

theorem edgesOf (h : c.Holds kept) {k : Kept} (there : kept.get? id = some k) :
    c.edgesOf id = k.edgeRows id := by
  have owned : ∀ id i e, (EdgeRow.ofEdge id i e).workflow = id := fun _ _ _ => rfl
  have placed : ∀ id i e, (EdgeRow.ofEdge id i e).position = i := fun _ _ _ => rfl
  rw [Contents.edgesOf, h.edges]
  exact rowsOf_written (·.workflow.edges) owned placed h.distinct there

theorem find?_workflows (h : c.Holds kept) (id : String) :
    c.workflows.find? (·.id == id) = (kept.get? id).map (Kept.row id) := by
  rw [h.workflows]
  clear h
  induction kept with
  | nil => rfl
  | cons p kept ih =>
    obtain ⟨key, k⟩ := p
    rw [List.map_cons, List.find?_cons, Fields.get?_cons, ih]
    by_cases here : id = key
    · simp [here, Kept.row]
    · have other : (key == id) = false := by simpa using Ne.symm here
      simp [here, other, Kept.row]

/-- A workflow that is looked up is the stored one with its id filled in. -/
theorem workflow? (h : c.Holds kept) (accepted : ∀ p ∈ kept, p.2.workflow.Accepted) (id : String) :
    c.workflow? id = .ok ((kept.get? id).map (Kept.loaded id)) := by
  unfold Contents.workflow?
  rw [h.find?_workflows]
  cases there : kept.get? id with
  | none => rfl
  | some k =>
    have passed : k.workflow.Accepted := accepted _ ((Fields.get?_eq_some_iff h.distinct).mp there)
    have nodes : (k.nodeRows id).mapM NodeRow.toNode = .ok k.workflow.nodes := by
      refine mapM_mapIdx fun i n there => ?_
      obtain ⟨fields, read⟩ := passed.nodes there
      exact NodeRow.toNode_ofNode read id i
    have edges : (k.edgeRows id).mapM EdgeRow.toEdge = .ok k.workflow.edges :=
      mapM_mapIdx fun i e _ => EdgeRow.toEdge_ofEdge id i e
    simp only [Option.map_some, h.nodesOf there, h.edgesOf there, nodes, edges, Kept.row, passed.name]
    rfl

end Contents.Holds

theorem getD_foldl_count (rows : List NodeRow) (counts : Fields Nat) (id : String) :
    ((rows.foldl (fun counts row =>
      Fields.insert row.workflow ((counts.get? row.workflow).getD 0 + 1) counts) counts).get? id).getD 0 =
      (counts.get? id).getD 0 + (rows.filter (·.workflow == id)).length := by
  induction rows generalizing counts with
  | nil => rfl
  | cons row rows ih =>
    rw [List.foldl_cons, ih, Fields.get?_insert, List.filter_cons]
    by_cases here : id = row.workflow
    · simp only [here, if_true, Option.getD_some, beq_self_eq_true, List.length_cons]
      omega
    · have other : (row.workflow == id) = false := by simpa using Ne.symm here
      simp only [here, other, if_false, Bool.false_eq_true]

namespace Contents

variable {c : Contents} {kept : Fields Kept} {id : String}

/-- The nodes of a workflow are counted; one without nodes is not, and has none. -/
theorem getD_nodeCounts (c : Contents) (id : String) :
    (c.nodeCounts.get? id).getD 0 = (c.nodesOf id).length := by
  rw [nodeCounts, getD_foldl_count, nodesOf, rowsOf, List.length_mergeSort, Fields.get?_nil, Option.getD_none,
    Nat.zero_add]

theorem Holds.summary_row (h : c.Holds kept) {p : String × Kept} (there : p ∈ kept) :
    ({ id := p.1, name := p.2.workflow.name, description := p.2.workflow.description.getD ""
       createdAt := some p.2.createdAt, nodeCount := ((c.nodeCounts.get? p.1).getD 0 : Nat) } :
      WorkflowSummary) = p.2.summary p.1 := by
  have found := (Fields.get?_eq_some_iff h.distinct).mpr there
  rw [getD_nodeCounts, h.nodesOf found, Kept.nodeRows, List.length_mapIdx]
  rfl

/-- There is one summary for each workflow. -/
theorem Holds.summaries (h : c.Holds kept) :
    c.summaries.Perm (kept.map fun (id, k) => k.summary id) := by
  have sorted := (c.workflows.mergeSort_perm fun a b =>
    b.createdAt.microseconds ≤ a.createdAt.microseconds).map fun row : WorkflowRow =>
      ({ id := row.id, name := row.name, description := row.description.getD ""
         createdAt := some row.createdAt, nodeCount := ((c.nodeCounts.get? row.id).getD 0 : Nat) } :
        WorkflowSummary)
  refine sorted.trans (.of_eq ?_)
  rw [h.workflows, List.map_map]
  exact List.map_congr_left fun p there => h.summary_row there

theorem Holds.ids (h : c.Holds kept) : c.workflows.map (·.id) = kept.keys := by
  rw [h.workflows, List.map_map]
  rfl

/-- A further workflow under an id that is not in use. -/
theorem Holds.addWorkflow (h : c.Holds kept) {c' : Contents} {w : Workflow} {now : Instant}
    (added : c.addWorkflow id w now = .ok c') :
    id ∉ kept.keys ∧ c'.Holds (kept ++ [(id, ⟨w, now⟩)]) := by
  obtain ⟨new, -, rfl⟩ := addWorkflow_eq_ok_iff.mp added
  rw [h.ids] at new
  refine ⟨new, ?_, ?_, ?_, ?_⟩
  · rw [Fields.keys, List.map_append]
    exact List.nodup_append.mpr ⟨h.distinct, List.nodup_singleton _, by
      rintro a there b last rfl
      obtain rfl := List.mem_singleton.mp last
      exact new there⟩
  · simp [h.workflows, Kept.row]
  · simp [h.nodes, Kept.nodeRows]
  · simp [h.edges, Kept.edgeRows]

end Contents

/-- Stores workflows one after the other. -/
def Host.createWorkflows : List Workflow → Host → List (Except Failure String) × Host
  | [], h => ([], h)
  | w :: ws, h =>
    let (outcome, h) := h.createWorkflow w
    let (outcomes, h) := createWorkflows ws h
    (outcome :: outcomes, h)

/-- The workflows that were stored, under the ids that came of it. -/
def registered (ws : List Workflow) (outcomes : List (Except Failure String)) : Fields Workflow :=
  (outcomes.zip ws).filterMap fun (outcome, w) => outcome.toOption.map (·, w)

/-- The settings of all nodes can be written. -/
def Workflow.Storable (w : Workflow) : Prop := ∀ n ∈ w.nodes, StoreFault.ofData? n.settings = none

namespace Contents

variable {h : Host} {c : Contents} {kept : Fields Kept}

/-- Why a workflow is refused. -/
theorem addWorkflow_eq_error {id : String} {w : Workflow} {now : Instant} {fault : StoreFault}
    (refused : c.addWorkflow id w now = .error fault) :
    id ∈ c.workflows.map (·.id) ∧ fault = .duplicate .workflows ∨
      id ∉ c.workflows.map (·.id) ∧ ¬w.Storable := by
  have used : c.workflows.any (·.id == id) = true ↔ id ∈ c.workflows.map (·.id) := by simp
  unfold addWorkflow at refused
  split at refused
  · next there =>
    cases refused
    exact .inl ⟨used.mp there, rfl⟩
  · next new =>
    refine .inr ⟨mt used.mpr new, fun storable => ?_⟩
    rw [List.findSome?_eq_none_iff.mpr storable] at refused
    cases refused

/-- What comes of storing a workflow: it is refused and nothing changes, since its id is in use or it cannot
be written; or its rows are added to those of the others. -/
theorem Holds.createWorkflow (tables : h.database.contents = some c) (holds : c.Holds kept)
    (w : Workflow) :
    (h.idFor w ∈ kept.keys ∧ ∃ h', h.createWorkflow w =
      (.error (StoreOperation.storeWorkflow.failure (.duplicate .workflows)), h') ∧
      h'.database = h.database) ∨
    (h.idFor w ∉ kept.keys ∧ ¬w.Storable ∧ ∃ f h', h.createWorkflow w = (.error f, h') ∧
      h'.database = h.database) ∨
    (h.idFor w ∉ kept.keys ∧ w.Storable ∧ ∃ c' h', h.createWorkflow w = (.ok (h.idFor w), h') ∧
      h'.database.contents = some c' ∧ c'.Holds (kept ++ [(h.idFor w, ⟨w, h.now⟩)])) := by
  have asked : h.database.withTables .storeWorkflow (·.addWorkflow (h.idFor w) w h.now) =
      c.addWorkflow (h.idFor w) w h.now := by simp only [Database.withTables, tables]
  rcases h.createWorkflow_cases w with ⟨fault, h', refused, failed, same⟩ | ⟨c', h', added, done, gained⟩
  · rw [← holds.ids]
    rcases addWorkflow_eq_error (asked.symm.trans refused) with ⟨used, rfl⟩ | ⟨new, unstorable⟩
    · exact .inl ⟨used, h', failed, same⟩
    · exact .inr (.inl ⟨new, unstorable, _, h', failed, same⟩)
  · have added : c.addWorkflow (h.idFor w) w h.now = .ok c' := asked.symm.trans added
    obtain ⟨-, storable, -⟩ := addWorkflow_eq_ok_iff.mp added
    obtain ⟨new, holds'⟩ := holds.addWorkflow added
    exact .inr (.inr ⟨new, List.findSome?_eq_none_iff.mp storable, c', h', done, by rw [gained], holds'⟩)

/-- After several workflows the tables hold those that were held before and those that were stored. -/
theorem Holds.createWorkflows (tables : h.database.contents = some c) (holds : c.Holds kept)
    (ws : List Workflow) :
    ∃ c' more, (h.createWorkflows ws).2.database.contents = some c' ∧ c'.Holds (kept ++ more) ∧
      (more.map fun (id, k) => (id, k.workflow)) = registered ws (h.createWorkflows ws).1 ∧
      ∀ p ∈ more, p.2.workflow ∈ ws := by
  induction ws generalizing h c kept with
  | nil => exact ⟨c, [], tables, by rwa [List.append_nil], rfl, fun p there => by cases there⟩
  | cons w ws ih =>
    have refused : ∀ f h', h.createWorkflow w = (.error f, h') → h'.database = h.database →
        ∃ c' more, (h.createWorkflows (w :: ws)).2.database.contents = some c' ∧
          c'.Holds (kept ++ more) ∧
          (more.map fun (id, k) => (id, k.workflow)) = registered (w :: ws) (h.createWorkflows (w :: ws)).1 ∧
          ∀ p ∈ more, p.2.workflow ∈ w :: ws := by
      intro f h' failed same
      obtain ⟨c', more, tables', holds', stored, among⟩ := ih (same ▸ tables) holds
      simp only [Host.createWorkflows, failed]
      exact ⟨c', more, tables', holds', stored, fun p there => List.mem_cons_of_mem w (among p there)⟩
    rcases holds.createWorkflow tables w with ⟨-, h', failed, same⟩ | ⟨-, -, f, h', failed, same⟩ |
      ⟨-, -, c₁, h', done, tables₁, holds₁⟩
    · exact refused _ h' failed same
    · exact refused f h' failed same
    · obtain ⟨c', more, tables', holds', stored, among⟩ := ih tables₁ holds₁
      simp only [Host.createWorkflows, done]
      refine ⟨c', (h.idFor w, ⟨w, h.now⟩) :: more, tables', ?_, ?_, ?_⟩
      · rwa [List.append_cons]
      · rw [List.map_cons, stored]
        rfl
      · intro p there
        rcases List.mem_cons.mp there with rfl | there
        · exact List.mem_cons_self
        · exact List.mem_cons_of_mem w (among p there)

end Contents

/-- The store of workflows, after any number of workflows was given to an empty one. An id that came of
storing a workflow never comes again; looking it up gives the workflow with its id filled in, and every other
id gives nothing; and there is one summary for each workflow. A further workflow is refused if its id is in
use, and nothing changes; with an id that is not in use it is stored, provided that it can be written. -/
theorem workflows_are_written_once {h₀ : Host} {c₀ : Contents} (tables : h₀.database.contents = some c₀)
    (empty : c₀.workflows = [] ∧ c₀.nodes = [] ∧ c₀.edges = []) {ws : List Workflow}
    (accepted : ∀ w ∈ ws, w.Accepted) :
    let h := (h₀.createWorkflows ws).2
    let stored := registered ws (h₀.createWorkflows ws).1
    stored.keys.Nodup ∧
    (∀ id, (h.loadWorkflow id).1 = .ok ((stored.get? id).map fun w => { w with id := some id })) ∧
    (∃ summaries, h.listWorkflows.1 = .ok summaries ∧
      (summaries.map fun s => (s.id, s.name, s.description, s.nodeCount)).Perm
        (stored.map fun (id, w) => (id, w.name, w.description.getD "", (w.nodes.length : Int)))) ∧
    ∀ w : Workflow,
      (h.idFor w ∈ stored.keys →
        (∃ e : EngineError, (h.createWorkflow w).1 = .error (.engine e) ∧ e.kind = .storage) ∧
        (h.createWorkflow w).2.database = h.database) ∧
      (h.idFor w ∉ stored.keys → w.Storable → (h.createWorkflow w).1 = .ok (h.idFor w)) ∧
      (¬w.Storable → (∃ f, (h.createWorkflow w).1 = .error f) ∧
        (h.createWorkflow w).2.database = h.database) := by
  intro h stored
  have start : c₀.Holds [] := ⟨.nil, empty.1, empty.2.1, empty.2.2⟩
  obtain ⟨c, kept, tables, holds, same, among⟩ := start.createWorkflows tables ws
  rw [List.nil_append] at holds
  have tables : h.database.contents = some c := tables
  have same : (kept.map fun (id, k) => (id, k.workflow)) = stored := same
  have keys : stored.keys = kept.keys := by
    rw [← same, Fields.keys, List.map_map]
    rfl
  have looked : ∀ id, stored.get? id = (kept.get? id).map (·.workflow) := by
    intro id
    rw [← same]
    exact Fields.get?_map _ _ _
  refine ⟨keys ▸ holds.distinct, fun id => ?_, ⟨c.summaries, ?_, ?_⟩, fun w => ?_⟩
  · rw [Host.loadWorkflow, Host.query_eq tables, looked, Option.map_map,
      holds.workflow? (fun p there => accepted _ (among p there))]
    rfl
  · rw [Host.listWorkflows, Host.query_eq tables]
  · rw [← same, List.map_map]
    exact (holds.summaries.map _).trans (.of_eq (List.map_map ..))
  · rw [keys]
    rcases holds.createWorkflow tables w with ⟨used, h', failed, same⟩ |
      ⟨new, unstorable, f, h', failed, same⟩ | ⟨new, storable, c', h', done, -, -⟩
    · rw [failed]
      exact ⟨fun _ => ⟨⟨_, rfl, rfl⟩, same⟩, fun new => absurd used new, fun _ => ⟨⟨_, rfl⟩, same⟩⟩
    · rw [failed]
      exact ⟨fun used => absurd used new, fun _ storable => absurd storable unstorable,
        fun _ => ⟨⟨f, rfl⟩, same⟩⟩
    · rw [done]
      exact ⟨fun used => absurd used new, fun _ _ => rfl, fun unstorable => absurd storable unstorable⟩

/-- A workflow that is given to an empty store twice is stored once. -/
theorem workflows_are_written_once_twice :
    let w : Workflow :=
      { id := some "a", name := "W", nodes := [{ id := "t", type := "trigger", settings := [("k", .null)] }] }
    let h₀ : Host :=
      { database := { contents := some {} }, newId := fun _ => "b"
        network := fun _ _ => { answer := .error default }, now := default }
    (∀ w' ∈ [w, w], w'.Accepted) ∧ registered [w, w] (h₀.createWorkflows [w, w]).1 = [("a", w)] ∧
      ((h₀.createWorkflows [w, w]).2.loadWorkflow "a").1 = .ok (some w) := by
  intro w h₀
  have once : w.Accepted := ⟨.caller, [("id", .str "a"), ("name", .str "W"),
    ("nodes", .list [.dict [("id", .str "t"), ("type", .str "trigger"), ("settings", .dict [("k", .null)])]])],
    rfl⟩
  have accepted : ∀ w' ∈ [w, w], w'.Accepted := by simpa using once
  have stored : registered [w, w] (h₀.createWorkflows [w, w]).1 = [("a", w)] := rfl
  have tables : h₀.database.contents = some {} := rfl
  have looked := (workflows_are_written_once tables ⟨rfl, rfl, rfl⟩ accepted).2.1 "a"
  rw [stored] at looked
  exact ⟨accepted, stored, looked⟩

end Automation
