import Automation.Failure
import Automation.Number.Numeral
import Automation.Value.Equality

/-!
Conditions: an operator between two operands. Numbers and texts that are numerals compare as doubles,
other texts by code points; a number is never ordered against a text.
-/
namespace Automation.Condition

open Automation.Number

inductive Operator where
  | eq
  | neq
  | contains
  | gt
  | gte
  | lt
  | lte
  deriving DecidableEq, Repr

namespace Operator

def text : Operator → String
  | .eq => "eq"
  | .neq => "neq"
  | .contains => "contains"
  | .gt => "gt"
  | .gte => "gte"
  | .lt => "lt"
  | .lte => "lte"

def all : List Operator := [.eq, .neq, .contains, .gt, .gte, .lt, .lte]

def ofText? (s : String) : Option Operator := all.find? (·.text == s)

/-- The operator that a setting names: equality when there is no setting. -/
def ofSetting? : Value → Option Operator
  | .null => some .eq
  | .str s => ofText? s
  | _ => none

end Operator

/-- An operand as it is compared: a number becomes a double, and so does a text that is a numeral.
An integer beyond the doubles is a failure, and so is a numeral among separators. -/
def coerce : Value → Except Failure Value
  | .int n =>
    match Double.ofInt? n with
    | some x => .ok (.float x)
    | none => .error .integerTooLarge
  | .str s =>
    if isNumeric s then
      match readDouble? s with
      | some x => .ok (.float x)
      | none => .error (.notNumber s)
    else .ok (.str s)
  | v => .ok v

def occursIn (part : List Char) : List Char → Bool
  | [] => part.isEmpty
  | c :: cs => part.isPrefixOf (c :: cs) || occursIn part cs

/-- An order on operands: of doubles as numbers, of texts by code points, of nothing else. -/
def ordered (numbers : Double → Double → Bool) (texts : String → String → Bool) :
    Value → Value → Bool
  | .float x, .float y => numbers x y
  | .str s, .str t => texts s t
  | _, _ => false

def before (s t : String) : Bool := decide (s < t)

def notAfter (s t : String) : Bool := !decide (t < s)

/-- Applies an operator to coerced operands. -/
def Operator.holds (op : Operator) (a b : Value) : Bool :=
  match op with
  | .eq => a.equal b
  | .neq => !a.equal b
  | .contains => match a, b with
    | .str s, .str t => occursIn t.toList s.toList
    | _, _ => false
  | .gt => ordered (fun x y => y.less x) (fun s t => before t s) a b
  | .gte => ordered (fun x y => y.atMost x) (fun s t => notAfter t s) a b
  | .lt => ordered Double.less before a b
  | .lte => ordered Double.atMost notAfter a b

/-- Evaluates a condition. An unknown operator never holds. -/
def evaluate (left : Value) (operator : Option Operator) (right : Value) : Except Failure Bool := do
  let a ← coerce left
  let b ← coerce right
  match operator with
  | some op => .ok (op.holds a b)
  | none => .ok false

end Automation.Condition
