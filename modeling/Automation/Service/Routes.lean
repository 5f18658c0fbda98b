import Automation.Service.Request

/-!
What the service offers, by path. A path in which a name is missing leads nowhere; one with slashes at
its end leads where it would lead without them.
-/
namespace Automation.Service

inductive Resource where
  | root
  | health
  | workflows
  | workflow (id : String)
  /-- The runs of a workflow. -/
  | runs (workflow : String)
  | execution (id : String)
  | log (execution : String)
  | load
  deriving DecidableEq, Repr

namespace Resource

def ofPath? (path : String) : Option Resource :=
  match path.splitOn "/" with
  | ["", ""] => some .root
  | ["", "health"] => some .health
  | "" :: "api" :: "v1" :: rest =>
    match rest with
    | ["workflows"] => some .workflows
    | ["workflows", id] => if id = "" then none else some (.workflow id)
    | ["workflows", id, "run"] => if id = "" then none else some (.runs id)
    | ["executions", id] => if id = "" then none else some (.execution id)
    | ["executions", id, "logs"] => if id = "" then none else some (.log id)
    | ["dispatcher", "status"] => some .load
    | _ => none
  | _ => none

/-- The path without slashes at its end. -/
def trimPath (path : String) : String :=
  String.ofList (path.toList.reverse.dropWhile (· == '/')).reverse

/-- The resource that a request is led to. -/
def locate? (path : String) : Option Resource :=
  match ofPath? path with
  | some r => some r
  | none => if path = "/" then none else ofPath? (trimPath path)

def methods : Resource → List String
  | .workflows => ["POST", "GET"]
  | .runs _ => ["POST"]
  | _ => ["GET"]

def templates : List String :=
  ["/", "/api/v1/dispatcher/status", "/api/v1/executions/\x7bexecution_id\x7d",
    "/api/v1/executions/\x7bexecution_id\x7d/logs", "/api/v1/workflows",
    "/api/v1/workflows/\x7bworkflow_id\x7d", "/api/v1/workflows/\x7bworkflow_id\x7d/run", "/health"]

end Resource
end Automation.Service
