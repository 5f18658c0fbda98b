import Automation.Failure
import Automation.Service.Target

/-!
Requests to the web service and its answers.
-/
namespace Automation.Service

structure Request where
  /-- The id by which the service refers to the request. -/
  id : String
  method : String
  /-- The path without escapes. -/
  path : String
  /-- The query as it was sent, empty where there is none. -/
  query : String := ""
  /-- The body; the empty text where there is none. -/
  body : String := ""
  client : String := "unknown"
  /-- Scheme and name of the host that was asked. -/
  base : String := ""
  deriving DecidableEq, Repr, Inhabited

namespace Request

def address (r : Request) : String :=
  r.base ++ r.path ++ (if r.query = "" then "" else "?" ++ r.query)

/-- The path as reports show it: up to a mark that would begin a query or a fragment. -/
def shownPath (r : Request) : String :=
  String.ofList ((r.path.toList.takeWhile fun c => c != '?' && c != '#').filter fun c =>
    c != '\n' && c != '\r' && c != '\t')

end Request

structure Answer where
  status : Nat
  body : Value
  deriving Inhabited

inductive Result where
  | answered (answer : Answer)
  | failed (failure : Failure)
  deriving Inhabited

end Automation.Service
