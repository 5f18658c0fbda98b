import Automation.Instant
import Automation.Value.Basic

/-!
Workflow definitions: nodes in the order in which they were written, and directed edges between node
ids. An edge may name a node that does not exist.
-/
namespace Automation

inductive NodeKind where
  | trigger
  | http
  | condition
  | email
  | ai
  | delay
  | erp
  deriving DecidableEq, Repr

namespace NodeKind

def text : NodeKind → String
  | .trigger => "trigger"
  | .http => "http"
  | .condition => "condition"
  | .email => "email"
  | .ai => "ai"
  | .delay => "delay"
  | .erp => "erp"

def all : List NodeKind := [.trigger, .http, .condition, .email, .ai, .delay, .erp]

/-- The kind that a word names; other words name none. -/
def ofText? (s : String) : Option NodeKind := all.find? (·.text == s)

end NodeKind

/-- A unit of work. Its kind is kept as it was written, known or not. -/
structure Node where
  id : String
  type : String
  name : String := ""
  settings : Fields Value := []
  deriving Inhabited

def Node.kind? (n : Node) : Option NodeKind := NodeKind.ofText? n.type

def Node.isTrigger (n : Node) : Bool := n.type == NodeKind.trigger.text

def Node.isCondition (n : Node) : Bool := n.type == NodeKind.condition.text

/-- A connection from one node to another. The branches of a condition are told apart by label. -/
structure Edge where
  source : String
  target : String
  label : Option String := none
  deriving DecidableEq, Repr, Inhabited

/-- A workflow. The store gives an id to one that has none. -/
structure Workflow where
  id : Option String := none
  name : String
  description : Option String := none
  nodes : List Node := []
  edges : List Edge := []
  deriving Inhabited

structure WorkflowSummary where
  id : String
  name : String
  description : String
  createdAt : Option Instant := none
  nodeCount : Int
  deriving DecidableEq, Repr

end Automation
