import Automation.Workflow.Basic

/-!
A workflow as a graph: nodes by id and outgoing edges by source. Both are built in one pass over the
definition. Of two nodes with one id the later counts, and the edges of a source keep the order in
which they were written.
-/
namespace Automation

/-- The edges of each source, the sources in order of their first edge. -/
abbrev EdgeGroups := Fields (List Edge)

/-- Adds an edge at the end of its source's group. -/
def EdgeGroups.add (e : Edge) : EdgeGroups → EdgeGroups
  | [] => [(e.source, [e])]
  | (source, edges) :: rest =>
    if source = e.source then (source, edges ++ [e]) :: rest
    else (source, edges) :: EdgeGroups.add e rest

structure Graph where
  nodes : List Node
  edges : List Edge
  byId : Fields Node
  outgoing : EdgeGroups

namespace Graph

def build (nodes : List Node) (edges : List Edge) : Graph where
  nodes := nodes
  edges := edges
  byId := nodes.foldl (fun index n => Fields.insert n.id n index) []
  outgoing := edges.foldl (fun groups e => groups.add e) []

def ofWorkflow (w : Workflow) : Graph := build w.nodes w.edges

def node? (g : Graph) (id : String) : Option Node := g.byId.get? id

/-- The edges that leave an id, in order; the id need not be a node. -/
def outgoingEdges (g : Graph) (id : String) : List Edge := (g.outgoing.get? id).getD []

/-- The node at which a run starts: the first trigger. -/
def trigger? (g : Graph) : Option Node := g.nodes.find? (·.isTrigger)

end Graph
end Automation
