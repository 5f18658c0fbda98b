import Automation.Workflow.Graph

/-!
Checks of a graph before it is stored. Repeated node ids are errors. What a run tolerates is only
warned of: a missing or a second trigger, unknown kinds, edges to nowhere and conditions without a
labelled branch.
-/
namespace Automation

/-- A repeated id, which makes a graph unusable. -/
structure GraphError where
  repeated : List String
  deriving DecidableEq, Repr

/-- What a run will tolerate. -/
inductive GraphWarning where
  | noTrigger
  | severalTriggers (first : String)
  | unknownKind (node type : String)
  | noSource (id : String)
  | noTarget (id : String)
  | noBranch (node : String)
  deriving DecidableEq, Repr

def GraphError.message (e : GraphError) : String :=
  "Duplicate node IDs: " ++ ", ".intercalate e.repeated

def GraphWarning.message : GraphWarning → String
  | .noTrigger => "Workflow has no trigger node and cannot be started"
  | .severalTriggers first => s!"Multiple trigger nodes found, only '{first}' will start a run"
  | .unknownKind node type => s!"Node '{node}' has unknown type '{type}' and will not be executed"
  | .noSource id => s!"Edge references non-existent source node: '{id}'"
  | .noTarget id => s!"Edge references non-existent target node: '{id}'"
  | .noBranch node => s!"Condition node '{node}' has no TRUE or FALSE branch"

structure Validation where
  errors : List GraphError
  warnings : List GraphWarning
  deriving DecidableEq, Repr

def Validation.isValid (v : Validation) : Bool := v.errors.isEmpty

def Validation.errorTexts (v : Validation) : List String := v.errors.map (·.message)

def Validation.warningTexts (v : Validation) : List String := v.warnings.map (·.message)

/-- The labels of the two branches of a condition. -/
def branchLabel (outcome : Bool) : String := if outcome then "TRUE" else "FALSE"

namespace Graph

/-- The order of code points. -/
def precedes (s t : String) : Bool := !decide (t < s)

/-- The ids that several nodes have, each once, in code point order. -/
def repeatedIds (g : Graph) : List String :=
  let ids := g.nodes.map (·.id)
  (g.byId.keys.filter fun id => 1 < ids.count id).mergeSort precedes

def triggerWarnings (g : Graph) : List GraphWarning :=
  match g.nodes.filter (·.isTrigger) with
  | [] => [.noTrigger]
  | [_] => []
  | first :: _ => [.severalTriggers first.id]

def kindWarnings (g : Graph) : List GraphWarning :=
  g.nodes.filterMap fun n =>
    if n.kind?.isSome then none else some (.unknownKind n.id n.type)

def edgeWarnings (g : Graph) : List GraphWarning :=
  g.edges.flatMap fun e =>
    (if (g.node? e.source).isSome then [] else [.noSource e.source]) ++
      (if (g.node? e.target).isSome then [] else [.noTarget e.target])

def isBranch (e : Edge) : Bool :=
  e.label == some (branchLabel true) || e.label == some (branchLabel false)

def branchWarnings (g : Graph) : List GraphWarning :=
  g.nodes.filterMap fun n =>
    if n.isCondition && !(g.outgoingEdges n.id).any isBranch then some (.noBranch n.id) else none

def validate (g : Graph) : Validation where
  errors :=
    let repeated := g.repeatedIds
    if repeated.isEmpty then [] else [⟨repeated⟩]
  warnings := g.triggerWarnings ++ g.kindWarnings ++ g.edgeWarnings ++ g.branchWarnings

end Graph
end Automation
