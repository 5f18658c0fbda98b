import Automation.Value.Basic

/-!
Equality of data. Truth values, integers and doubles compare as numbers, lists item by item, and
mappings field by field in any order. What is not a number differs from everything, itself included.
-/
namespace Automation

inductive Numeric where
  | exact (n : Int)
  | rounded (x : Double)

namespace Numeric

def equal : Numeric → Numeric → Bool
  | .exact m, .exact n => m == n
  | .exact m, .rounded y => y.equalInt m
  | .rounded x, .exact n => x.equalInt n
  | .rounded x, .rounded y => x.equal y

end Numeric

namespace Value

/-- The number that a truth value, an integer or a double is. -/
def numeric? : Value → Option Numeric
  | .bool b => some (.exact (if b then 1 else 0))
  | .int n => some (.exact n)
  | .float x => some (.rounded x)
  | _ => none

mutual

/-- Equality of data. -/
def equal : Value → Value → Bool
  | .null, b => match b with
    | .null => true
    | _ => false
  | .bool x, b => match b.numeric? with
    | some n => Numeric.equal (.exact (if x then 1 else 0)) n
    | none => false
  | .int x, b => match b.numeric? with
    | some n => Numeric.equal (.exact x) n
    | none => false
  | .float x, b => match b.numeric? with
    | some n => Numeric.equal (.rounded x) n
    | none => false
  | .str s, b => match b with
    | .str t => s == t
    | _ => false
  | .list xs, b => match b with
    | .list ys => equalItems xs ys
    | _ => false
  | .dict fs, b => match b with
    | .dict gs => fs.length == gs.length && equalFields fs gs
    | _ => false

/-- Equality of lists, item by item. -/
def equalItems : List Value → List Value → Bool
  | [], ys => ys.isEmpty
  | x :: xs, ys => match ys with
    | y :: ys => equal x y && equalItems xs ys
    | [] => false

/-- Every field of the first mapping is in the second one with an equal value. -/
def equalFields : List (String × Value) → List (String × Value) → Bool
  | [], _ => true
  | (k, v) :: rest, gs =>
    (match gs.lookup k with
    | some w => equal v w
    | none => false) && equalFields rest gs

end

end Value
end Automation
