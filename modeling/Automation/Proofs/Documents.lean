import Automation.Document.Record
import Automation.Proofs.Trimming
import Mathlib.Data.List.Forall2

/-!
What an accepted document says. A check passes data just where every part of it passes its own check, so
the records that were read can be traced back to the data that they were read from, field by field and
item by item.
-/
namespace Automation.Document

open Automation.Text

namespace Checked

variable {α β : Type}

theorem map_good_iff {f : α → β} {a : Checked α} {y : β} :
    a.map f = .good y ↔ ∃ x, a = .good x ∧ f x = y := by
  cases a <;> simp [Checked.map]

theorem ap_good_iff {f : Checked (α → β)} {a : Checked α} {y : β} :
    f.ap a = .good y ↔ ∃ g x, f = .good g ∧ a = .good x ∧ g x = y := by
  cases f <;> cases a <;> simp [Checked.ap]

/-- All fields of a record have to pass. -/
theorem seq_good_iff {f : Checked (α → β)} {a : Checked α} {y : β} :
    (f <*> a) = .good y ↔ ∃ g x, f = .good g ∧ a = .good x ∧ g x = y := ap_good_iff

theorem fmap_good_iff {f : α → β} {a : Checked α} {y : β} :
    (f <$> a) = .good y ↔ ∃ x, a = .good x ∧ f x = y := by
  have seq : (f <$> a) = (Checked.good f).ap a := rfl
  rw [seq, ap_good_iff]
  simp

@[simp] theorem under_good_iff {step : Step} {a : Checked α} {x : α} :
    a.under step = .good x ↔ a = .good x := by
  cases a <;> simp [Checked.under]

theorem andThen_good_iff {a : Checked α} {f : α → Checked β} {y : β} :
    a.andThen f = .good y ↔ ∃ x, a = .good x ∧ f x = .good y := by
  cases a <;> simp [Checked.andThen]

end Checked

open Checked

variable {α : Type}

theorem ruleFor_good_iff {found : Value} {holds : Bool} {message : String} {value x : α} :
    ruleFor found holds message value = .good x ↔ holds = true ∧ value = x := by
  cases holds <;> simp [ruleFor, Checked.problem]

theorem required_good_iff {fields : Fields Value} {name : String} {check : Check α} {x : α} :
    required fields name check = .good x ↔ ∃ v, fields.get? name = some v ∧ check v = .good x := by
  unfold required
  rw [under_good_iff]
  cases fields.get? name <;> simp [Checked.problem]

theorem optional_good_iff {fields : Fields Value} {name : String} {default x : α} {check : Check α} :
    optional fields name default check = .good x ↔
      (∃ v, fields.get? name = some v ∧ check v = .good x) ∨ fields.get? name = none ∧ x = default := by
  unfold optional
  rw [under_good_iff]
  cases fields.get? name <;> simp [eq_comm]

theorem record_good_iff {origin : Origin} {name : String} {read : Fields Value → Checked α} {v : Value}
    {x : α} : record origin name read v = .good x ↔ ∃ fields, v = .dict fields ∧ read fields = .good x := by
  cases v with
  | dict fields => simp [record]
  | _ => cases origin <;> simp [record, Checked.problem]

namespace Check

theorem text_good_iff {v : Value} {s : String} : Check.text v = .good s ↔ v = .str s := by
  cases v <;> simp [Check.text, Checked.problem]

/-- The items of a list pass one by one. -/
theorem itemsFrom_good_iff {check : Check α} {i : Nat} {items : List Value} {xs : List α} :
    Check.itemsFrom check i items = .good xs ↔ List.Forall₂ (fun v x => check v = .good x) items xs := by
  induction items generalizing i xs with
  | nil => simp [Check.itemsFrom, eq_comm]
  | cons v rest ih =>
    rw [Check.itemsFrom, ap_good_iff, List.forall₂_cons_left_iff]
    constructor
    · rintro ⟨g, ys, first, rest, rfl⟩
      obtain ⟨y, passed, rfl⟩ := map_good_iff.mp first
      exact ⟨y, ys, under_good_iff.mp passed, ih.mp rest, rfl⟩
    · rintro ⟨y, ys, first, rest, rfl⟩
      exact ⟨List.cons y, ys, map_good_iff.mpr ⟨y, under_good_iff.mpr first, rfl⟩, ih.mpr rest, rfl⟩

theorem list_good_iff {check : Check α} {v : Value} {xs : List α} : Check.list check v = .good xs ↔
    ∃ items, v = .list items ∧ List.Forall₂ (fun v x => check v = .good x) items xs := by
  cases v <;> simp [Check.list, Checked.problem, itemsFrom_good_iff]

end Check

/-- An id that is accepted is not blank, and it is trimmed. -/
theorem nonBlank_good_iff {message s t : String} :
    nonBlank message s = .good t ↔ trim s ≠ "" ∧ trim s = t := by
  simp [nonBlank, ruleFor_good_iff]

/-- The record at a place in one of a document's lists. -/
def recordAt? (doc : Fields Value) (list : String) (i : Nat) : Option (Fields Value) :=
  match doc.get? list with
  | some (.list items) =>
    match items[i]? with
    | some (.dict fields) => some fields
    | _ => none
  | _ => none

/-- A record in a list that was read stands at the same place. -/
theorem of_recordAt? {doc : Fields Value} {list name : String} {i : Nat} {fields : Fields Value}
    {origin : Origin} {read : Fields Value → Checked α} {xs : List α}
    (there : recordAt? doc list i = some fields)
    (accepted : optional doc list [] (Check.list (record origin name read)) = .good xs) :
    ∃ x, xs[i]? = some x ∧ read fields = .good x := by
  unfold recordAt? at there
  rcases optional_good_iff.mp accepted with ⟨v, found, passed⟩ | ⟨missing, -⟩
  · obtain ⟨items, rfl, each⟩ := Check.list_good_iff.mp passed
    rw [found] at there
    simp only at there
    split at there
    · rename_i v at_
      cases there
      obtain ⟨inside, is⟩ := List.getElem?_eq_some_iff.mp at_
      have length := each.length_eq
      refine ⟨xs[i], List.getElem?_eq_getElem _, ?_⟩
      have passed := each.get inside (length ▸ inside)
      rw [List.get_eq_getElem, is] at passed
      obtain ⟨_, same, passed⟩ := record_good_iff.mp passed
      cases same
      exact passed
    · cases there
  · rw [missing] at there
    cases there

/-- Every record of a list that was read was read from data. -/
theorem of_mem_read {doc : Fields Value} {list name : String} {origin : Origin}
    {read : Fields Value → Checked α} {xs : List α}
    (accepted : optional doc list [] (Check.list (record origin name read)) = .good xs) {x : α}
    (there : x ∈ xs) : ∃ fields, read fields = .good x := by
  rcases optional_good_iff.mp accepted with ⟨v, -, passed⟩ | ⟨-, rfl⟩
  · obtain ⟨items, rfl, each⟩ := Check.list_good_iff.mp passed
    obtain ⟨i, inside, rfl⟩ := List.mem_iff_getElem.mp there
    obtain ⟨fields, -, passed⟩ := record_good_iff.mp (each.get (each.length_eq ▸ inside) inside)
    exact ⟨fields, passed⟩
  · cases there

/-- A node is read from a record with the id, trimmed. -/
theorem id_of_readNode {fields : Fields Value} {n : Node} (accepted : readNode fields = .good n) :
    ∃ s, fields.get? "id" = some (.str s) ∧ n.id = trim s := by
  simp only [readNode, seq_good_iff, fmap_good_iff, required_good_iff, andThen_good_iff,
    Check.text_good_iff, nodeId, nonBlank_good_iff] at accepted
  obtain ⟨_, _, ⟨_, _, ⟨_, _, ⟨id, ⟨_, found, s, rfl, -, rfl⟩, rfl⟩, -, rfl⟩, -, rfl⟩, -, rfl⟩ := accepted
  exact ⟨s, found, rfl⟩

/-- An edge is read from a record with its ends, as they are written. -/
theorem ends_of_readEdge {fields : Fields Value} {e : Edge} (accepted : readEdge fields = .good e) :
    fields.get? "source_node_id" = some (.str e.source) ∧
      fields.get? "target_node_id" = some (.str e.target) := by
  simp only [readEdge, seq_good_iff, fmap_good_iff, required_good_iff, Check.text_good_iff] at accepted
  obtain ⟨_, _, ⟨_, _, ⟨_, ⟨_, source, rfl⟩, rfl⟩, ⟨_, target, rfl⟩, rfl⟩, -, rfl⟩ := accepted
  exact ⟨source, target⟩

theorem lists_of_readWorkflow {origin : Origin} {doc : Fields Value} {w : Workflow}
    (accepted : readWorkflow origin doc = .good w) :
    optional doc "nodes" [] (Check.list (record origin "WorkflowNode" readNode)) = .good w.nodes ∧
      optional doc "edges" [] (Check.list (record origin "WorkflowEdge" readEdge)) = .good w.edges := by
  simp only [readWorkflow, seq_good_iff, fmap_good_iff] at accepted
  obtain ⟨_, _, ⟨_, _, ⟨_, _, ⟨_, _, ⟨_, -, rfl⟩, -, rfl⟩, -, rfl⟩, nodes, rfl⟩, edges, rfl⟩ := accepted
  exact ⟨nodes, edges⟩

/-- A text that passed is trimmed, and so passes again. -/
theorem nonBlank_again {message s t : String} (accepted : nonBlank message s = .good t) :
    nonBlank message t = .good t := by
  obtain ⟨solid, rfl⟩ := nonBlank_good_iff.mp accepted
  exact nonBlank_good_iff.mpr ⟨by rwa [trim_trim], trim_trim s⟩

theorem nodeSettings_dict (settings : Fields Value) : nodeSettings (.dict settings) = .good settings := by
  cases settings <;> rfl

/-- A node that was accepted has an id and a type that are accepted as they are. -/
theorem parts_of_readNode {fields : Fields Value} {n : Node} (accepted : readNode fields = .good n) :
    nodeId n.id = .good n.id ∧ nodeType n.type = .good n.type := by
  simp only [readNode, seq_good_iff, fmap_good_iff, required_good_iff, andThen_good_iff,
    Check.text_good_iff] at accepted
  obtain ⟨_, _, ⟨_, _, ⟨_, _, ⟨_, ⟨_, -, _, rfl, id⟩, rfl⟩, ⟨_, -, _, rfl, type⟩, rfl⟩, -, rfl⟩, -, rfl⟩ :=
    accepted
  exact ⟨nonBlank_again id, nonBlank_again type⟩

/-- The fields of a node that was accepted are accepted again, for the same node. -/
theorem readNode_again {fields : Fields Value} {n : Node} (accepted : readNode fields = .good n) :
    readNode [("id", .str n.id), ("type", .str n.type), ("name", .str n.name),
      ("settings", .dict n.settings)] = .good n := by
  obtain ⟨id, type⟩ := parts_of_readNode accepted
  let again : Fields Value :=
    [("id", .str n.id), ("type", .str n.type), ("name", .str n.name), ("settings", .dict n.settings)]
  have idRead : required again "id" (fun v => (Check.text v).andThen nodeId) = .good n.id :=
    required_good_iff.mpr ⟨.str n.id, rfl, andThen_good_iff.mpr ⟨n.id, rfl, id⟩⟩
  have typeRead : required again "type" (fun v => (Check.text v).andThen nodeType) = .good n.type :=
    required_good_iff.mpr ⟨.str n.type, rfl, andThen_good_iff.mpr ⟨n.type, rfl, type⟩⟩
  have nameRead : optional again "name" "" Check.text = .good n.name :=
    optional_good_iff.mpr (.inl ⟨.str n.name, rfl, rfl⟩)
  have settingsRead : optional again "settings" [] nodeSettings = .good n.settings :=
    optional_good_iff.mpr (.inl ⟨.dict n.settings, rfl, nodeSettings_dict n.settings⟩)
  calc readNode again = Node.mk <$> .good n.id <*> .good n.type <*> .good n.name <*> .good n.settings := by
        rw [readNode, idRead, typeRead, nameRead, settingsRead]
    _ = .good n := rfl

/-- The fields of any edge are accepted, for the same edge. -/
theorem readEdge_again (e : Edge) :
    readEdge [("source_node_id", .str e.source), ("target_node_id", .str e.target),
      ("label", optionText e.label)] = .good e := by
  obtain ⟨source, target, label⟩ := e
  cases label <;> rfl

theorem name_of_readWorkflow {origin : Origin} {doc : Fields Value} {w : Workflow}
    (accepted : readWorkflow origin doc = .good w) : workflowName w.name = .good w.name := by
  simp only [readWorkflow, seq_good_iff, fmap_good_iff, required_good_iff, andThen_good_iff,
    Check.text_good_iff] at accepted
  obtain ⟨_, _, ⟨_, _, ⟨_, _, ⟨_, _, ⟨_, -, rfl⟩, ⟨_, -, _, rfl, named⟩, rfl⟩, -, rfl⟩, -, rfl⟩, -, rfl⟩ :=
    accepted
  exact nonBlank_again named

namespace Checked

variable {α β : Type} {R : α → Prop} {Q : β → Prop}

/-- Whatever passes has a property. -/
def All (P : α → Prop) (a : Checked α) : Prop := ∀ x, a = .good x → P x

theorem All.any {a : Checked α} : a.All fun _ => True := fun _ _ => trivial

theorem All.self {a : Checked α} : a.All (a = .good ·) := fun _ passed => passed

/-- The last field of a record, and those before it. -/
theorem All.seq {f : Checked (α → β)} {a : Checked α} (last : a.All R)
    (before : f.All fun g => ∀ x, R x → Q (g x)) : (f <*> a).All Q := by
  intro y passed
  obtain ⟨g, x, first, second, rfl⟩ := seq_good_iff.mp passed
  exact before g first x (last x second)

theorem All.fmap {f : α → β} {a : Checked α} (only : a.All R) (record : ∀ x, R x → Q (f x)) :
    (f <$> a).All Q := by
  intro y passed
  obtain ⟨x, first, rfl⟩ := fmap_good_iff.mp passed
  exact record x (only x first)

/-- What passes a check and then a rule keeps what the rule says, and so does the default. -/
theorem All.optional_rule {fields : Fields Value} {name : String} {default : α} {check : Check α}
    {rule : α → Checked α} (kept : ∀ y, (rule y).All R) (standard : R default) :
    (optional fields name default fun v => (check v).andThen rule).All R := by
  intro x accepted
  rcases optional_good_iff.mp accepted with ⟨v, -, passed⟩ | ⟨-, rfl⟩
  · obtain ⟨y, -, ruled⟩ := andThen_good_iff.mp passed
    exact kept y x ruled
  · exact standard

end Checked

end Automation.Document
