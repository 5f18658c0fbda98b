import Automation.Number.Double

/-!
The data that workflows pass around: what a document can hold. A mapping keeps its fields in the
order in which they were first written, and no key twice.
-/
namespace Automation

inductive Value where
  | null
  | bool (b : Bool)
  | int (n : Int)
  | float (x : Double)
  | str (s : String)
  | list (items : List Value)
  | dict (fields : List (String × Value))
  deriving Inhabited

/-- Fields by name, in order. -/
abbrev Fields (α : Type) := List (String × α)

namespace Fields

def get? {α : Type} (fields : Fields α) (key : String) : Option α := List.lookup key fields

/-- Sets a field: in place if it is there, else at the end. -/
def insert {α : Type} (key : String) (value : α) : Fields α → Fields α
  | [] => [(key, value)]
  | (k, v) :: rest => if k = key then (k, value) :: rest else (k, v) :: insert key value rest

def update {α : Type} (fields changes : Fields α) : Fields α :=
  changes.foldl (fun fs (k, v) => insert k v fs) fields

/-- The fields with every key once: the last value of a key, at the place of its first. -/
def ofPairs {α : Type} (pairs : List (String × α)) : Fields α := update [] pairs

def keys {α : Type} (fields : Fields α) : List String := List.map Prod.fst fields

end Fields

namespace Value

/-- Whether a setting counts as given: null, false, zero and what is empty do not. -/
def isTruthy : Value → Bool
  | .null => false
  | .bool b => b
  | .int n => n != 0
  | .float x => x.key? != some 0
  | .str s => s != ""
  | .list items => !items.isEmpty
  | .dict fields => !fields.isEmpty

def ofStrings (items : List String) : Value := .list (items.map .str)

/-- A mapping whose values are all text. -/
def ofTexts (fields : List (String × String)) : Value := .dict (fields.map fun (k, v) => (k, .str v))

end Value
end Automation
