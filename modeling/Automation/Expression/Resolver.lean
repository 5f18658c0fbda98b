import Automation.Expression.Placeholder
import Automation.Failure
import Automation.Json.Reader
import Automation.Json.Writer
import Automation.Stack

/-!
Substitution: every placeholder of a text is replaced by the text of the output that it refers to.
What is inserted is not looked at again.
-/
namespace Automation

abbrev Outputs := Fields Value

namespace Outputs

/-- The entry of a node's output; null where the node has none or its output is no mapping. -/
def lookup (outputs : Outputs) (node key : String) : Value :=
  match outputs.get? node with
  | some (.dict fields) => (Fields.get? fields key).getD .null
  | _ => .null

end Outputs

/-- Data written out where there is only so much room for its nesting, or the failure that keeps it from being
written. -/
def Value.writtenIn (room : Nat) (tooDeep : Failure) (write : Value → String) (v : Value) :
    Except Failure String :=
  if room < v.depth then .error tooDeep
  else if v.isWritable then .ok (write v)
  else .error .unwritableInteger

theorem Value.writtenIn_of_fits {room : Nat} {v : Value} (fits : v.fits room = true) (tooDeep : Failure)
    (write : Value → String) : v.writtenIn room tooDeep write = .ok (write v) := by
  simp only [Value.fits, Bool.and_eq_true, decide_eq_true_eq] at fits
  rw [writtenIn, if_neg (by omega), if_pos fits.2]

theorem Value.writtenIn_of_not_fits {room : Nat} {v : Value} (unfit : v.fits room = false)
    (tooDeep : Failure) (write : Value → String) :
    ∃ e, v.writtenIn room tooDeep write = .error e ∧ (e = tooDeep ∨ e = .unwritableInteger) := by
  simp only [Value.fits, Bool.and_eq_false_imp, decide_eq_true_eq] at unfit
  unfold writtenIn
  split
  · exact ⟨_, rfl, .inl rfl⟩
  · next shallow => exact ⟨_, if_neg (by simp [unfit (by omega)]), .inr rfl⟩

/-- Data as text for people, if it can be shown. -/
def Value.text? : Value → Except Failure String := writtenIn Stack.shown .shownTooDeep text

theorem Value.text?_of_fits {v : Value} (fits : v.fits Stack.shown = true) : v.text? = .ok v.text :=
  writtenIn_of_fits fits _ _

theorem Value.text?_of_not_fits {v : Value} (unfit : v.fits Stack.shown = false) :
    ∃ e, v.text? = .error e ∧ (e = .shownTooDeep ∨ e = .unwritableInteger) :=
  writtenIn_of_not_fits unfit _ _

/-- The text that a value leaves where it is inserted: nothing for null and false, a one for true, compact
JSON for lists and mappings. Data that cannot be written is a failure. -/
def Value.inserted (room : Nat) : Value → Except Failure String
  | .null => .ok ""
  | .bool b => .ok (if b then "1" else "")
  | .list items => (Value.list items).writtenIn room .writtenTooDeep (Json.write Json.compact)
  | .dict fields => (Value.dict fields).writtenIn room .writtenTooDeep (Json.write Json.compact)
  | v => v.text?

/-- Joins pieces, with the text of each reference in its place. -/
def fill (lookup : Placeholder → Except Failure (List Char)) : List Piece → Except Failure (List Char)
  | [] => .ok []
  | .char c :: rest => do
    let tail ← fill lookup rest
    .ok (c :: tail)
  | .hole p :: rest => do
    let inserted ← lookup p
    let tail ← fill lookup rest
    .ok (inserted ++ tail)

namespace Outputs

def inserted (outputs : Outputs) (room : Nat) (p : Placeholder) : Except Failure (List Char) :=
  match (outputs.lookup (String.ofList p.node) (String.ofList p.key)).inserted room with
  | .ok s => .ok s.toList
  | .error e => .error e

def resolveText (outputs : Outputs) (room : Nat) (s : String) : Except Failure String :=
  match fill (outputs.inserted room) (pieces s.toList) with
  | .ok cs => .ok (String.ofList cs)
  | .error e => .error e

/-- Substitutes in a text; other data stays as it is, whatever it contains. -/
def resolve (outputs : Outputs) (room : Nat) : Value → Except Failure Value
  | .str s =>
    match outputs.resolveText room s with
    | .ok t => .ok (.str t)
    | .error e => .error e
  | v => .ok v

/-- Substitutes in every field of a mapping, at the top level only. -/
def resolveFields (outputs : Outputs) (room : Nat) : Fields Value → Except Failure (Fields Value)
  | [] => .ok []
  | (k, v) :: rest => do
    let v ← outputs.resolve room v
    let rest ← resolveFields outputs room rest
    .ok ((k, v) :: rest)

end Outputs
end Automation
