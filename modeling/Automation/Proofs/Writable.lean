import Automation.Proofs.Loop

/-!
Data that can be written as text. Substitution inserts it wherever a placeholder refers to it, so a walk
over outputs of such data is never cut short. Nodes leave such data behind as long as the network
answers with it.
-/
namespace Automation

open Proc

/-- No integer in the data is too long to be written, and the data is nested at most so deep. -/
def Value.Within (depth : Nat) (v : Value) : Prop := v.isWritable = true ∧ v.depth ≤ depth

/-- The data can be written into a setting. -/
def Value.CanBeWritten (v : Value) : Prop := v.Within Stack.setting

/-- Every field of a mapping can be written. -/
def Fields.CanBeWritten (fields : Fields Value) : Prop :=
  ∀ key value, fields.get? key = some value → value.CanBeWritten

/-- A response whose status, body and headers can be written. -/
structure Http.Response.CanBeWritten (r : Http.Response) : Prop where
  status : (Value.int r.status).CanBeWritten
  body : r.body.CanBeWritten
  headers : (Value.dict r.headers).CanBeWritten

/-- Whatever a placeholder refers to can be written. -/
def Outputs.CanBeWritten (outputs : Outputs) : Prop :=
  ∀ node key, (outputs.lookup node key).CanBeWritten

namespace Value

theorem canBeWritten_null : null.CanBeWritten := ⟨rfl, Nat.zero_le _⟩
theorem canBeWritten_bool (b : Bool) : (bool b).CanBeWritten := ⟨rfl, Nat.zero_le _⟩
theorem canBeWritten_float (x : Double) : (float x).CanBeWritten := ⟨rfl, Nat.zero_le _⟩
theorem canBeWritten_str (s : String) : (str s).CanBeWritten := ⟨rfl, Nat.zero_le _⟩

theorem Within.fits {room : Nat} {v : Value} (h : v.Within room) : v.fits room = true := by
  simp [Value.fits, h.1, h.2]

theorem inserted_of_within {room : Nat} {v : Value} (h : v.Within room) : ∃ s, v.inserted room = .ok s := by
  cases v with
  | null | bool _ | float _ | str _ => exact ⟨_, rfl⟩
  | int n => exact ⟨_, text?_of_fits (Within.fits ⟨h.1, Nat.zero_le _⟩)⟩
  | list items => exact ⟨_, writtenIn_of_fits h.fits _ _⟩
  | dict fields => exact ⟨_, writtenIn_of_fits h.fits _ _⟩

end Value

theorem Fields.canBeWritten_nil : Fields.CanBeWritten [] := by
  intro key value h
  cases h

theorem Fields.CanBeWritten.cons {k : String} {v : Value} {rest : Fields Value} (hv : v.CanBeWritten)
    (hrest : Fields.CanBeWritten rest) : Fields.CanBeWritten ((k, v) :: rest) := by
  intro key value h
  rw [Fields.get?_cons] at h
  by_cases hk : key = k
  · rw [if_pos hk] at h
    cases h
    exact hv
  · rw [if_neg hk] at h
    exact hrest key value h

theorem fill_ok {lookup : Placeholder → Except Failure (List Char)}
    (h : ∀ p, ∃ cs, lookup p = .ok cs) (pieces : List Piece) : ∃ cs, fill lookup pieces = .ok cs := by
  induction pieces with
  | nil => exact ⟨[], rfl⟩
  | cons piece rest ih =>
    obtain ⟨tail, ht⟩ := ih
    cases piece with
    | char c => exact ⟨c :: tail, by rw [fill, ht]; rfl⟩
    | hole p =>
      obtain ⟨cs, hcs⟩ := h p
      exact ⟨cs ++ tail, by rw [fill, hcs, ht]; rfl⟩

namespace Outputs

variable {outputs : Outputs}

theorem canBeWritten_nil : CanBeWritten [] := fun _ _ => Value.canBeWritten_null

theorem CanBeWritten.inserted (h : outputs.CanBeWritten) (p : Placeholder) :
    ∃ cs, outputs.inserted Stack.setting p = .ok cs := by
  obtain ⟨s, hs⟩ := Value.inserted_of_within (h (String.ofList p.node) (String.ofList p.key))
  exact ⟨s.toList, by rw [Outputs.inserted, hs]⟩

theorem CanBeWritten.resolve (h : outputs.CanBeWritten) (v : Value) :
    ∃ v', outputs.resolve Stack.setting v = .ok v' := by
  cases v with
  | str s =>
    obtain ⟨cs, hcs⟩ := fill_ok h.inserted (pieces s.toList)
    exact ⟨.str (String.ofList cs), by rw [Outputs.resolve, resolveText, hcs]⟩
  | null | bool _ | int _ | float _ | list _ | dict _ => exact ⟨_, rfl⟩

/-- All settings can be substituted. -/
theorem CanBeWritten.resolveFields (h : outputs.CanBeWritten) (fields : Fields Value) :
    ∃ settings, outputs.resolveFields Stack.setting fields = .ok settings := by
  induction fields with
  | nil => exact ⟨[], rfl⟩
  | cons field rest ih =>
    obtain ⟨k, v⟩ := field
    obtain ⟨v', hv⟩ := h.resolve v
    obtain ⟨settings, hs⟩ := ih
    exact ⟨(k, v') :: settings, by rw [Outputs.resolveFields, hv, hs]; rfl⟩

theorem CanBeWritten.insert (h : outputs.CanBeWritten) {fields : Fields Value}
    (hf : fields.CanBeWritten) (node : String) :
    CanBeWritten (Fields.insert node (.dict fields) outputs) := by
  intro id key
  have h' := h id key
  unfold lookup at h' ⊢
  rw [Fields.get?_insert]
  by_cases hid : id = node
  · rw [if_pos hid]
    simp only
    cases hk : Fields.get? fields key with
    | none => exact Value.canBeWritten_null
    | some value => exact hf key value hk
  · rw [if_neg hid]
    exact h'

end Outputs

/-- An outcome that leaves only data behind that can be written. -/
def Outcome.CanBeWritten : Outcome → Prop
  | .output fields => fields.CanBeWritten
  | .error _ => True

theorem responseFields_canBeWritten {r : Http.Response} (h : r.CanBeWritten) :
    (responseFields r).CanBeWritten :=
  .cons h.body (.cons h.status (.cons h.headers Fields.canBeWritten_nil))

section

variable {σ : Type} {answer : Answerer σ}

/-- The network answers only with data that can be written. -/
def NetworkWritable (answer : Answerer σ) : Prop :=
  ∀ request s response, (answer (.send request) s).1 = .ok response → response.CanBeWritten

theorem exchange_canBeWritten (network : NetworkWritable answer) {t : Turn} {request : Http.Request}
    {s : σ} {response : Http.Response} (h : ((exchange t request).run answer s).1 = .ok response) :
    response.CanBeWritten := by
  unfold exchange at h
  split at h
  · exact network request s response h
  · cases h

theorem handleHttp_canBeWritten (network : NetworkWritable answer) {t : Turn} {s : σ} {handled : Handled}
    (h : ((handleHttp t).run answer s).1 = .ok handled) : handled.outcome.CanBeWritten := by
  unfold handleHttp at h
  split at h
  · cases h
  · rw [run_bind] at h
    split at h
    · next response answered =>
      cases h
      exact responseFields_canBeWritten (exchange_canBeWritten network answered)
    · split at h
      · cases h
      · cases h
        trivial

/-- A node that is carried out leaves data behind that can be written. -/
theorem handle_canBeWritten (network : NetworkWritable answer) {t : Turn} {kind : NodeKind} {s : σ}
    {handled : Handled} (h : ((handle t kind).run answer s).1 = .ok handled) :
    handled.outcome.CanBeWritten := by
  cases kind with
  | http => exact handleHttp_canBeWritten network h
  | condition =>
    have verdict := handleCondition_outcome h
    cases ho : handled.outcome with
    | error text => trivial
    | output fields =>
      rw [ho] at verdict
      cases verdict
      exact .cons (Value.canBeWritten_bool _) Fields.canBeWritten_nil
  | trigger | erp | email =>
    cases h
    exact .cons (Value.canBeWritten_str _) Fields.canBeWritten_nil
  | ai =>
    cases h
    exact .cons (Value.canBeWritten_str _) (.cons (Value.canBeWritten_float _) Fields.canBeWritten_nil)
  | delay =>
    cases h
    exact .cons (Value.canBeWritten_bool _) Fields.canBeWritten_nil

theorem carryOut_canBeWritten (network : NetworkWritable answer) {t : Turn} {s : σ} {handled : Handled}
    (h : ((carryOut t).run answer s).1 = some handled) : handled.outcome.CanBeWritten := by
  unfold carryOut at h
  split at h
  · cases h
  · rw [run_bind] at h
    split at h
    · next handled' result =>
      cases h
      exact handle_canBeWritten network result
    · cases h
      trivial

theorem Outputs.CanBeWritten.after {outputs : Outputs} (h : outputs.CanBeWritten) (node : Node)
    {outcome : Option Outcome} (ho : ∀ o, outcome = some o → o.CanBeWritten) :
    (outputs.after node outcome).CanBeWritten := by
  match outcome, ho with
  | none, _ => exact h
  | some (.error _), _ => exact h
  | some (.output fields), ho => exact h.insert (ho _ rfl) node.id

/-- A visit does not fail, and the outputs after it can be written as well. -/
theorem visit_canBeWritten (network : NetworkWritable answer) (run : RunContext) {outputs : Outputs}
    (h : outputs.CanBeWritten) (node : Node) (s : σ) :
    ∃ outcome outputs', ((visit run outputs node).run answer s).1 = .ok (outcome, outputs') ∧
      outputs'.CanBeWritten := by
  obtain ⟨settings, resolved⟩ := h.resolveFields node.settings
  refine ⟨_, _, run_visit_of_ok answer resolved s, h.after node ?_⟩
  intro o ho
  obtain ⟨handled, carried, rfl⟩ := Option.map_eq_some_iff.mp ho
  exact carryOut_canBeWritten network carried

namespace Loop

variable {run : RunContext} {l l' : Loop σ}

/-- A walk that was not cut short, over outputs that can be written. -/
structure Sound (l : Loop σ) : Prop where
  uncut : l.failure = none
  outputs : l.walk.outputs.CanBeWritten

theorem Sound.step (network : NetworkWritable answer) (h : Sound l) (step : Step answer run l l') :
    Sound l' := by
  cases step with
  | again seen => exact ⟨rfl, h.outputs⟩
  | missing new missing => exact ⟨rfl, h.outputs⟩
  | node new found result =>
    obtain ⟨outcome, outputs', ok, written⟩ := visit_canBeWritten network run h.outputs _ _
    rw [result] at ok
    cases ok
    exact ⟨rfl, written⟩
  | cut new found result =>
    obtain ⟨outcome, outputs', ok, written⟩ := visit_canBeWritten network run h.outputs _ _
    rw [result] at ok
    cases ok

/-- A walk over outputs that can be written is sound from its start on. -/
theorem Steps.sound (network : NetworkWritable answer) {w : Walk} (h : w.outputs.CanBeWritten)
    {start : String} {s : σ} (steps : Steps answer run (.start w start s) l) : Sound l :=
  kept_of_steps (fun h step => h.step network step) ⟨rfl, h⟩ steps

end Loop

/-- A walk over outputs that can be written is not cut short. -/
theorem walkFrom_uncut (network : NetworkWritable answer) (run : RunContext) {w : Walk}
    (h : w.outputs.CanBeWritten) (start : String) (s : σ) :
    ∃ walk s', (walkFrom run w start).run answer s = ((none, walk), s') := by
  obtain ⟨l, steps, -, result, -⟩ := Loop.exists_steps_walkFrom answer run w start s [] []
  have sound : l.Sound := steps.sound network h
  exact ⟨l.walk, l.world, by rw [result, sound.uncut]⟩

end

end Automation
