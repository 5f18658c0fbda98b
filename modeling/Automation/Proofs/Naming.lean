import Automation.Document.Record
import Automation.Proofs.Forwarding
import Automation.Proofs.Provenance

/-!
Naming an output. A setting that is a reference to an entry of the output of an earlier node, by the id
of the node and the key of the entry, reaches the handler as the text of that entry. This needs an id
that a placeholder can hold: a definition may use any id that is not blank, but in a placeholder an id
ends at the first full stop, closing brace or blank.
-/
namespace Automation

open Placeholder (Spells)

/-- No character of the id would end it in a placeholder. -/
def Nameable (id : String) : Prop :=
  ∀ c ∈ id.toList, c ≠ '.' ∧ c ≠ '\x7d' ∧ Text.isBlank c = false

instance (id : String) : Decidable (Nameable id) :=
  List.decidableBAll (fun c => c ≠ '.' ∧ c ≠ '\x7d' ∧ Text.isBlank c = false) id.toList

/-- The key has no closing brace in it and ends with a character that is no blank. -/
structure Keyable (key : String) : Prop where
  within : ∀ c ∈ key.toList, c ≠ '\x7d'
  solid : ∃ front last, key.toList = front ++ [last] ∧ Text.isBlank last = false

/-- The placeholder for an entry of the output of a node. -/
def reference (id key : String) : String :=
  "\x7b\x7b context.outputs." ++ id ++ "." ++ key ++ " \x7d\x7d"

/-- An id that a definition may use is not empty. -/
theorem ne_empty_of_nodeId {written id : String} (accepted : Document.nodeId written = .good id) :
    id.toList ≠ [] := by
  simp only [Document.nodeId, Document.nonBlank, Document.ruleFor] at accepted
  split at accepted
  · next solid =>
    cases accepted
    simpa using solid
  · cases accepted

/-- A reference is a placeholder and nothing else. -/
theorem spells_reference {id key : String} (named : id.toList ≠ []) (nameable : Nameable id)
    (keyable : Keyable key) : Spells ⟨id.toList, key.toList⟩ (reference id key).toList := by
  obtain ⟨front, last, ends, solid⟩ := keyable.solid
  have blank : ∀ c ∈ [' '], Text.isBlank c = true := List.forall_mem_singleton.mpr (by decide)
  have within : ∀ c ∈ key.toList ++ [' '], c ≠ '\x7d' := by
    intro c there
    rcases List.mem_append.mp there with there | there
    · exact keyable.within c there
    · rw [List.mem_singleton.mp there]
      decide
  have keyed : Placeholder.KeyIn (key.toList ++ [' ']) key.toList := by
    rw [ends]
    exact .trimmed solid blank
  have whole : (reference id key).toList = ['\x7b', '\x7b'] ++ [' '] ++ "context.outputs.".toList ++
      id.toList ++ ['.'] ++ (key.toList ++ [' ']) ++ ['\x7d', '\x7d'] := by
    unfold reference
    simp only [String.toList_append]
    simp
  rw [whole]
  exact .spelt blank named nameable within keyed

/-- The reference to the entry of a node, both of them named by a letter. -/
theorem spells_plain_reference : Spells ⟨"a".toList, "k".toList⟩ (reference "a" "k").toList :=
  spells_reference (by decide) (by decide) ⟨by simp, [], 'k', rfl, rfl⟩

/-- Whatever a placeholder names is nameable. -/
theorem Placeholder.Spells.nameable {p : Placeholder} {text : List Char} (spelt : Spells p text) :
    Nameable (String.ofList p.node) := by
  cases spelt with
  | spelt blank named name within keyed => simpa [Nameable] using name

/-- A reference to an entry that is there becomes its text. -/
theorem Outputs.resolve_reference {outputs : Outputs} {id key : String} {fields : Fields Value}
    {value : Value} (named : id.toList ≠ []) (nameable : Nameable id) (keyable : Keyable key)
    (kept : outputs.get? id = some (.dict fields)) (entry : fields.get? key = some value) (room : Nat) :
    outputs.resolve room (.str (reference id key)) = (value.inserted room).map .str := by
  have held : outputs.lookup (String.ofList id.toList) (String.ofList key.toList) = value := by
    simp [lookup, kept, entry]
  rw [resolve, resolveText_eq (spells_reference named nameable keyable), inserted, held]
  cases value.inserted room <;> simp [Except.map]

/-- A setting that refers to an entry of the output of a node, visited before and ended well, is replaced by
the text of that entry, and this is what the handler receives. The id may be any that a definition may use
and that a placeholder can hold. One that it cannot hold is named by no placeholder at all. -/
theorem reference_reaches_handler {σ : Type} (answer : Answerer σ) {executionId : String}
    {nodes : List Node} {edges : List Edge} {online : Bool} {start : String} {s : σ} {l : Loop σ}
    (steps : Loop.Steps answer ⟨executionId, Graph.build nodes edges, online⟩ (.start {} start s) l)
    {before after : List Stop} {source stop : Stop} (split : l.stops = before ++ stop :: after)
    (earlier : source ∈ before) {fields : Fields Value}
    (succeeded : source.result = .ok (some (.output fields))) {written : String}
    (accepted : Document.nodeId written = .good source.node.id) {key : String} {value : Value}
    (entry : fields.get? key = some value) (keyable : Keyable key) {name : String}
    (setting : stop.node.settings.get? name = some (.str (reference source.node.id key))) :
    (Nameable source.node.id →
      stop.outputs.resolve Stack.setting (.str (reference source.node.id key)) =
        (value.inserted Stack.setting).map .str ∧
      ∀ kind outcome, stop.node.kind? = some kind → stop.result = .ok outcome →
        ∃ settings s text, stop.HandedOver answer ⟨executionId, Graph.build nodes edges, online⟩ kind
            settings s ∧
          value.inserted Stack.setting = .ok text ∧ settings.get? name = some (.str text)) ∧
    (¬Nameable source.node.id → ∀ p text, Spells p text → String.ofList p.node ≠ source.node.id) := by
  have hg : (Graph.build nodes edges).Indexed := Graph.indexed_build nodes edges
  let run : RunContext := ⟨executionId, Graph.build nodes edges, online⟩
  have chronicle : l.Chronicle answer run := steps.chronicle hg
  have outlook := chronicle.outlook (steps.accounts hg) split
  have kept : stop.outputs.get? source.node.id = some (.dict fields) :=
    (outlook.sees _ _).mpr ⟨source, earlier, rfl, fields, succeeded, rfl⟩
  constructor
  · intro nameable
    have resolved :=
      Outputs.resolve_reference (ne_empty_of_nodeId accepted) nameable keyable kept entry Stack.setting
    refine ⟨resolved, ?_⟩
    intro kind outcome known dispatched
    obtain ⟨settings, s, handed⟩ := outlook.handed kind outcome known dispatched
    obtain ⟨given, inserted, there⟩ := Outputs.exists_resolve handed.resolved setting
    rw [resolved] at inserted
    cases known : value.inserted Stack.setting with
    | error e => simp [known, Except.map] at inserted
    | ok text =>
      simp only [known, Except.map, Except.ok.injEq] at inserted
      exact ⟨settings, s, text, handed, rfl, inserted ▸ there⟩
  · intro unnameable p text spelt same
    exact unnameable (same ▸ spelt.nameable)

/-- The key under which a trigger leaves its result. -/
theorem keyable_result : Keyable "result" where
  within := by simp
  solid := ⟨"resul".toList, 't', rfl, rfl⟩

/-- The recipient of a message is the result of the trigger before it. -/
theorem reference_reaches_handler_recipient :
    let t : Node := { id := "t", type := "trigger" }
    let m : Node :=
      { id := "m", type := "email", settings := [("recipient", .str (reference "t" "result"))] }
    let run : RunContext := ⟨"e", Graph.build [t, m] [⟨"t", "m", none⟩], true⟩
    let s := Rehearsal.start {} [] [] default
    Document.nodeId " t " = .good t.id ∧ Nameable t.id ∧ Keyable "result" ∧
    ∃ (l : Loop Rehearsal) (source stop : Stop),
      Loop.Steps Rehearsal.answer run (.start {} t.id s) l ∧ l.stops = [source] ++ stop :: [] ∧
      source.node = t ∧ stop.node = m ∧
      source.result = .ok (some (.output [("result", .str "ok")])) ∧
      ∃ settings s, stop.HandedOver Rehearsal.answer run .email settings s ∧
        settings.get? "recipient" = some (.str "ok") := by
  intro t m run s
  have accepted : Document.nodeId " t " = .good t.id := by rfl
  have nameable : Nameable t.id := by decide
  let outputs : Outputs := [("t", .dict [("result", .str "ok")])]
  let done : Outcome := .output [("result", .str "ok")]
  let queued : Outcome := .output [("status", .str "queued")]
  let s₁ := ((visit run [] t).run Rehearsal.answer s).2
  let source : Stop := ⟨t, [], .ok (some done), (visit run [] t).trace Rehearsal.answer s⟩
  let stop : Stop := ⟨m, outputs, .ok (some queued), (visit run outputs m).trace Rehearsal.answer s₁⟩
  have first : (visit run [] t).run Rehearsal.answer s = (.ok (some done, outputs), s₁) := rfl
  have text : outputs.resolve Stack.setting (.str (reference t.id "result")) =
      ((Value.str "ok").inserted Stack.setting).map .str :=
    Outputs.resolve_reference (by decide) nameable keyable_result rfl rfl Stack.setting
  have resolved : outputs.resolveFields Stack.setting m.settings = .ok [("recipient", .str "ok")] := by
    simp only [m, Outputs.resolveFields]
    rw [text]
    rfl
  have second : (visit run outputs m).run Rehearsal.answer s₁ =
      (.ok (some queued, outputs.after m (some queued)), _) :=
    Prod.ext (run_visit_of_ok Rehearsal.answer resolved s₁) rfl
  -- the walk has two turns, the trigger and the message
  have way : ∃ l, Loop.Steps Rehearsal.answer run (.start {} t.id s) l ∧ l.stops = [source] ++ [stop] :=
    ⟨_, .head (.node List.not_mem_nil rfl first) (.single (.node (by decide) rfl second)), rfl⟩
  obtain ⟨l, steps, split⟩ := way
  have setting : m.settings.get? "recipient" = some (.str (reference t.id "result")) := rfl
  have there : source ∈ [source] := List.mem_singleton_self source
  obtain ⟨-, reached⟩ := (reference_reaches_handler Rehearsal.answer steps split there rfl accepted rfl
    keyable_result setting).1 nameable
  obtain ⟨settings, s', text, handed, written, given⟩ := reached .email _ (by decide) rfl
  cases written
  exact ⟨accepted, nameable, keyable_result, l, source, stop, steps, split, rfl, rfl, rfl, settings, s',
    handed, given⟩

/-- An id that a definition may use and that no placeholder names: the reference is read as one to another
node, which does not exist, and the recipient of the message is empty. -/
theorem reference_misses_dotted_id :
    let t : Node := { id := "a.b", type := "trigger" }
    let m : Node :=
      { id := "m", type := "email", settings := [("recipient", .str (reference "a.b" "result"))] }
    let run : RunContext := ⟨"e", Graph.build [t, m] [⟨"a.b", "m", none⟩], true⟩
    let s := Rehearsal.start {} [] [] default
    Document.nodeId "a.b" = .good "a.b" ∧ Keyable "result" ∧
      ((walkFrom run {} "a.b").run Rehearsal.answer s).1.2.order = ["a.b", "m"] ∧
      (((walkFrom run {} "a.b").run Rehearsal.answer s).1.2.outputs.lookup "a.b" "result").text = "ok" ∧
      (entries ((walkFrom run {} "a.b").trace Rehearsal.answer s)).map
        (fun entry => (entry.nodeId, (entry.data.get? "recipient").map Value.text)) =
          [(some "a.b", none), (some "m", some "")] := by
  intro t m run s
  exact ⟨rfl, keyable_result, by decide +kernel, by decide +kernel, by decide +kernel⟩

end Automation
