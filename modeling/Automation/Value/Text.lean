import Automation.Number.Shortest
import Automation.Text.Quoted
import Automation.Value.Basic

/-!
Data as text for people: headers, messages and the command line show it so. Text stands for itself
at the top and in quotes inside a list or a mapping.
-/
namespace Automation.Value

open Automation.Number Automation.Text

mutual

/-- Data in a message, with text in quotes. -/
def shown : Value → List Char
  | .null => "None".toList
  | .bool b => (if b then "True" else "False").toList
  | .int n => integerDigits n
  | .float x => doubleDigits x
  | .str s => (quoted s).toList
  | .list items => '[' :: (shownItems items ++ [']'])
  | .dict fields => '{' :: (shownFields fields ++ ['}'])

/-- Items with a comma and a space between them. -/
def shownItems : List Value → List Char
  | [] => []
  | v :: rest => shown v ++ (if rest.isEmpty then [] else ',' :: ' ' :: shownItems rest)

def shownFields : List (String × Value) → List Char
  | [] => []
  | (k, v) :: rest =>
    (quoted k).toList ++ ':' :: ' ' :: shown v ++
      (if rest.isEmpty then [] else ',' :: ' ' :: shownFields rest)

end

/-- Data in a message, with text in quotes. -/
def quotedText (v : Value) : String := String.ofList v.shown

def text : Value → String
  | .str s => s
  | v => v.quotedText

def typeName : Value → String
  | .null => "NoneType"
  | .bool _ => "bool"
  | .int _ => "int"
  | .float _ => "float"
  | .str _ => "str"
  | .list _ => "list"
  | .dict _ => "dict"

mutual

/-- Whether every integer in the data is short enough to be written out. -/
def isWritable : Value → Bool
  | .int n => Number.isWritable n
  | .list items => areWritable items
  | .dict fields => fieldsAreWritable fields
  | _ => true

def areWritable : List Value → Bool
  | [] => true
  | v :: rest => isWritable v && areWritable rest

def fieldsAreWritable : List (String × Value) → Bool
  | [] => true
  | (_, v) :: rest => isWritable v && fieldsAreWritable rest

end

mutual

/-- How many lists and mappings stand inside one another. -/
def depth : Value → Nat
  | .list items => depthOfItems items + 1
  | .dict fields => depthOfFields fields + 1
  | _ => 0

def depthOfItems : List Value → Nat
  | [] => 0
  | v :: rest => max (depth v) (depthOfItems rest)

def depthOfFields : List (String × Value) → Nat
  | [] => 0
  | (_, v) :: rest => max (depth v) (depthOfFields rest)

end

/-- Whether data can be written out where there is only so much room for its nesting. -/
def fits (room : Nat) (v : Value) : Bool := v.depth ≤ room && v.isWritable

end Automation.Value
