import Automation.Proofs.Fields
import Automation.Workflow.Graph

/-!
The index of a graph against the definition that it was built from. An id refers to the last node
that has it, and the edges that leave it are those of the definition, in the order of the definition.
The groups of all sources are the edges of the definition, each as often as it is written there.
-/
namespace Automation

namespace Graph

theorem get?_foldl_insert (nodes : List Node) (index : Fields Node) (id : String) :
    Fields.get? (nodes.foldl (fun index n => Fields.insert n.id n index) index) id =
      (nodes.reverse.find? (·.id == id)).or (Fields.get? index id) := by
  induction nodes generalizing index with
  | nil => rfl
  | cons n rest ih =>
    rw [List.foldl_cons, ih, Fields.get?_insert, List.reverse_cons, List.find?_append, Option.or_assoc]
    by_cases h : id = n.id
    · simp [h]
    · have hne : (n.id == id) = false := by simpa using fun h' => h h'.symm
      simp [h, hne]

/-- Of several nodes with one id, the last is the one that the id refers to. -/
theorem node?_build (nodes : List Node) (edges : List Edge) (id : String) :
    (build nodes edges).node? id = nodes.reverse.find? (·.id == id) := by
  rw [node?, build, get?_foldl_insert, Fields.get?_nil, Option.or_none]

theorem get?_add (e : Edge) (groups : EdgeGroups) (id : String) :
    (Fields.get? (EdgeGroups.add e groups) id).getD [] =
      (Fields.get? groups id).getD [] ++ if id = e.source then [e] else [] := by
  induction groups with
  | nil =>
    rw [EdgeGroups.add, Fields.get?_cons]
    by_cases h : id = e.source <;> simp [h]
  | cons group rest ih =>
    obtain ⟨source, edges⟩ := group
    by_cases hs : source = e.source
    · rw [EdgeGroups.add, if_pos hs, Fields.get?_cons, Fields.get?_cons, hs]
      by_cases h : id = e.source <;> simp [h]
    · rw [EdgeGroups.add, if_neg hs, Fields.get?_cons, Fields.get?_cons]
      by_cases h : id = source
      · have hne : id ≠ e.source := by rw [h]; exact hs
        simp only [if_pos h, if_neg hne, List.append_nil]
      · simp only [if_neg h, ih]

theorem get?_foldl_add (edges : List Edge) (groups : EdgeGroups) (id : String) :
    (Fields.get? (edges.foldl (fun groups e => EdgeGroups.add e groups) groups) id).getD [] =
      (Fields.get? groups id).getD [] ++ edges.filter (·.source == id) := by
  induction edges generalizing groups with
  | nil => simp
  | cons e rest ih =>
    rw [List.foldl_cons, ih, get?_add, List.append_assoc, List.filter_cons]
    by_cases h : id = e.source
    · simp [h]
    · have hne : (e.source == id) = false := by simpa using fun h' => h h'.symm
      simp [h, hne]

/-- The edges that leave an id are those of the definition with that source, in order. -/
theorem outgoingEdges_build (nodes : List Node) (edges : List Edge) (id : String) :
    (build nodes edges).outgoingEdges id = edges.filter (·.source == id) := by
  rw [outgoingEdges, build, get?_foldl_add]
  rfl

/-- The index of the graph is that of its nodes and edges. -/
def Indexed (g : Graph) : Prop := g = build g.nodes g.edges

theorem indexed_build (nodes : List Node) (edges : List Edge) : (build nodes edges).Indexed := rfl

variable {g : Graph} {id : String}

theorem Indexed.node? (h : g.Indexed) (id : String) :
    g.node? id = g.nodes.reverse.find? (·.id == id) := by
  rw [Indexed] at h
  rw [h]
  exact node?_build _ _ id

theorem Indexed.outgoingEdges (h : g.Indexed) (id : String) :
    g.outgoingEdges id = g.edges.filter (·.source == id) := by
  rw [Indexed] at h
  rw [h]
  exact outgoingEdges_build _ _ id

theorem Indexed.id_eq (h : g.Indexed) {n : Node} (hn : g.node? id = some n) : n.id = id := by
  rw [h.node?] at hn
  simpa using List.find?_some hn

theorem Indexed.mem (h : g.Indexed) {n : Node} (hn : g.node? id = some n) : n ∈ g.nodes := by
  rw [h.node?] at hn
  exact List.mem_reverse.mp (List.mem_of_find?_eq_some hn)

theorem Indexed.node?_eq_none_iff (h : g.Indexed) : g.node? id = none ↔ ∀ n ∈ g.nodes, n.id ≠ id := by
  rw [h.node?, List.find?_eq_none]
  simp

/-- Where no two nodes share an id, an id refers to the node that has it. -/
theorem Indexed.node?_eq_some_iff (h : g.Indexed) (distinct : (g.nodes.map (·.id)).Nodup) {n : Node} :
    g.node? id = some n ↔ n ∈ g.nodes ∧ n.id = id := by
  constructor
  · intro found
    exact ⟨h.mem found, h.id_eq found⟩
  · rintro ⟨there, named⟩
    cases found : g.node? id with
    | none => exact absurd named (h.node?_eq_none_iff.mp found n there)
    | some n' =>
      have same : n'.id = n.id := (h.id_eq found).trans named.symm
      rw [List.inj_on_of_nodup_map distinct (h.mem found) there same]

/-- The last of the nodes with an id is the one that no node with this id follows. -/
theorem Indexed.node?_eq_some_iff_last (h : g.Indexed) {n : Node} : g.node? id = some n ↔
    n.id = id ∧ ∃ before after, g.nodes = before ++ n :: after ∧ ∀ m ∈ after, m.id ≠ id := by
  rw [h.node?, List.find?_eq_some_iff_append, beq_iff_eq]
  refine and_congr_right fun _ => ⟨?_, ?_⟩
  · rintro ⟨after, before, whole, others⟩
    refine ⟨before.reverse, after.reverse, ?_, fun m there => ?_⟩
    · rw [List.reverse_eq_iff] at whole
      simpa using whole
    · simpa using others m (List.mem_reverse.mp there)
  · rintro ⟨before, after, whole, others⟩
    refine ⟨after.reverse, before.reverse, by simp [whole], fun m there => ?_⟩
    simpa using others m (List.mem_reverse.mp there)

/-- The index of the nodes has every id of theirs as a key, and none twice. -/
theorem Indexed.keys (h : g.Indexed) :
    g.byId.keys.Nodup ∧ ∀ id, id ∈ g.byId.keys ↔ id ∈ g.nodes.map (·.id) := by
  rw [Indexed] at h
  rw [h]
  simpa [build, Fields.keys] using
    Fields.keys_foldl (fun index n => Fields.insert n.id n index) Node.id
      (fun _ _ _ => Fields.mem_keys_insert) (fun _ n => Fields.nodup_keys_insert n.id n) g.nodes []
      List.nodup_nil

/-- An edge is added under its source. -/
theorem keys_add (e : Edge) (groups : EdgeGroups) :
    Fields.keys (EdgeGroups.add e groups) = Fields.keys (Fields.insert e.source [e] groups) := by
  induction groups with
  | nil => rfl
  | cons group rest ih =>
    obtain ⟨source, edges⟩ := group
    by_cases same : source = e.source
    · rw [EdgeGroups.add, if_pos same, Fields.insert, if_pos same]
      rfl
    · rw [EdgeGroups.add, if_neg same, Fields.insert, if_neg same]
      exact congrArg (source :: ·) ih

/-- The index of the edges has every source of theirs as a key, and none twice. -/
theorem Indexed.keys_outgoing (h : g.Indexed) :
    g.outgoing.keys.Nodup ∧ ∀ id, id ∈ g.outgoing.keys ↔ id ∈ g.edges.map (·.source) := by
  rw [Indexed] at h
  rw [h]
  simpa [build, Fields.keys] using
    Fields.keys_foldl (fun groups e => EdgeGroups.add e groups) Edge.source
      (fun groups e _ => by rw [keys_add, Fields.mem_keys_insert])
      (fun groups e distinct => keys_add e groups ▸ Fields.nodup_keys_insert e.source [e] distinct)
      g.edges [] List.nodup_nil

theorem Indexed.outgoingEdges_eq_nil_iff (h : g.Indexed) :
    g.outgoingEdges id = [] ↔ ∀ e ∈ g.edges, e.source ≠ id := by
  rw [h.outgoingEdges, List.filter_eq_nil_iff]
  simp

/-- The index has one group for each source, with the edges that leave it. -/
theorem Indexed.mem_outgoing_iff (h : g.Indexed) {group : List Edge} :
    (id, group) ∈ g.outgoing ↔ group ≠ [] ∧ group = g.outgoingEdges id := by
  rw [← Fields.get?_eq_some_iff h.keys_outgoing.1]
  constructor
  · intro found
    have edges : g.outgoingEdges id = group := by rw [Graph.outgoingEdges, found, Option.getD_some]
    refine ⟨fun empty => ?_, edges.symm⟩
    -- a source is a key only because an edge has it
    have key : id ∈ g.outgoing.keys := by
      by_contra missing
      rw [Fields.get?_eq_none_iff.mpr missing] at found
      cases found
    obtain ⟨e, there, source⟩ := List.mem_map.mp ((h.keys_outgoing.2 id).mp key)
    exact h.outgoingEdges_eq_nil_iff.mp (edges.trans empty) e there source
  · rintro ⟨some_edge, rfl⟩
    cases found : g.outgoing.get? id with
    | none => exact absurd (by rw [Graph.outgoingEdges, found, Option.getD_none]) some_edge
    | some group => rw [Graph.outgoingEdges, found, Option.getD_some]

/-- Adding an edge to its group adds it to the edges of all groups. -/
theorem flatMap_add (e : Edge) (groups : EdgeGroups) :
    ((EdgeGroups.add e groups).flatMap (·.2)).Perm (groups.flatMap (·.2) ++ [e]) := by
  induction groups with
  | nil => exact .refl _
  | cons group rest ih =>
    obtain ⟨source, edges⟩ := group
    by_cases same : source = e.source
    · rw [EdgeGroups.add, if_pos same, List.flatMap_cons, List.flatMap_cons, List.append_assoc,
        List.append_assoc]
      exact List.perm_append_comm.append_left edges
    · rw [EdgeGroups.add, if_neg same, List.flatMap_cons, List.flatMap_cons, List.append_assoc]
      exact ih.append_left edges

theorem flatMap_foldl_add (edges : List Edge) (groups : EdgeGroups) :
    ((edges.foldl (fun groups e => EdgeGroups.add e groups) groups).flatMap (·.2)).Perm
      (groups.flatMap (·.2) ++ edges) := by
  induction edges generalizing groups with
  | nil => rw [List.foldl_nil, List.append_nil]
  | cons e rest ih =>
    have first : ((EdgeGroups.add e groups).flatMap (·.2) ++ rest).Perm
        (groups.flatMap (·.2) ++ [e] ++ rest) := (flatMap_add e groups).append_right rest
    rw [List.append_assoc, List.singleton_append] at first
    exact (ih _).trans first

/-- All groups together are the edges of the definition, rearranged. -/
theorem Indexed.outgoing_perm (h : g.Indexed) : (g.outgoing.flatMap (·.2)).Perm g.edges := by
  rw [Indexed] at h
  rw [h]
  exact flatMap_foldl_add g.edges []

end Graph

/-- The index of a graph loses, repeats and reorders nothing. The edges that leave an id, whether it is
a node's or not, are those of the definition with this source, in the order of the definition; there are
none just where no edge has the source. The index has one group for each source, which are these edges,
and all groups together are the edges of the definition, rearranged. An id refers to the last node of the
definition that has it, and to none just where no node has it. -/
theorem index_keeps_definition (nodes : List Node) (edges : List Edge) :
    let g := Graph.build nodes edges
    (∀ id, g.outgoingEdges id = edges.filter (·.source == id) ∧
      (g.outgoingEdges id = [] ↔ ∀ e ∈ edges, e.source ≠ id)) ∧
    (g.outgoing.keys.Nodup ∧
      ∀ id group, (id, group) ∈ g.outgoing ↔ group ≠ [] ∧ group = g.outgoingEdges id) ∧
    (g.outgoing.flatMap (·.2)).Perm edges ∧
    ∀ id, (∀ n, g.node? id = some n ↔
        n.id = id ∧ ∃ before after, nodes = before ++ n :: after ∧ ∀ m ∈ after, m.id ≠ id) ∧
      (g.node? id = none ↔ ∀ n ∈ nodes, n.id ≠ id) := by
  intro g
  have hg : g.Indexed := Graph.indexed_build nodes edges
  refine ⟨fun id => ⟨hg.outgoingEdges id, hg.outgoingEdges_eq_nil_iff⟩,
    ⟨hg.keys_outgoing.1, fun id group => hg.mem_outgoing_iff⟩, hg.outgoing_perm, fun id => ⟨fun n => ?_, ?_⟩⟩
  · exact hg.node?_eq_some_iff_last
  · exact hg.node?_eq_none_iff

/-- Parallel edges stay apart, edges of an id that is no node's are found, and the later of two nodes
counts. -/
example :
    let g := Graph.build
      [{ id := "a", type := "trigger" }, { id := "b", type := "email" }, { id := "a", type := "delay" }]
      [⟨"x", "a", none⟩, ⟨"a", "b", none⟩, ⟨"x", "b", none⟩, ⟨"a", "b", none⟩]
    g.outgoing = [("x", [⟨"x", "a", none⟩, ⟨"x", "b", none⟩]), ("a", [⟨"a", "b", none⟩, ⟨"a", "b", none⟩])] ∧
      (g.node? "a").map (·.type) = some "delay" ∧ (g.node? "x").isNone = true := by
  decide +kernel

end Automation
