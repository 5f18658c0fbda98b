import Automation.Journal.Tape
import Automation.Service.Request
import Automation.Value.Equality

/-!
What surrounds every endpoint: the journal tells of the request and its answer, its records carry the
facts of the request while it is handled, and a failure becomes an answer.
-/
namespace Automation.Service

open Journal (Record Tape)

structure Duration where
  milliseconds : Nat
  deriving DecidableEq, Repr, Inhabited

namespace Duration

def seconds (d : Duration) : Double := .number false (Double.rankOfRatio d.milliseconds 1000)

def text (d : Duration) : String :=
  s!"{d.milliseconds / 1000}.{Instant.field 3 (d.milliseconds % 1000)}s"

end Duration

/-- Whether a number is less than a double. -/
def isBelow (threshold : Value) (x : Double) : Bool :=
  match threshold.numeric? with
  | some (.exact n) => (Double.ofInt? n).any (·.less x)
  | some (.rounded y) => y.less x
  | none => false

namespace Request

/-- The method and the path, by which reports name a request. -/
def title (r : Request) : String := s!"{r.method} {r.shownPath}"

def fields (r : Request) : Fields Value :=
  [("request_id", .str r.id), ("method", .str r.method), ("path", .str r.shownPath),
    ("client_ip", .str r.client)]

end Request

def middlewareNote (level : Journal.Level) (message : String) : Tape.Step :=
  .write (Journal.note level .middleware message)

/-- What the journal does before the endpoint is called. -/
def opening (r : Request) : List Tape.Step :=
  let query := (Value.ofTexts (Target.queryFields r.query)).text
  [middlewareNote .debug s!"Request details: {r.method} {r.address} - Query params: {query}",
    .enter r.fields, middlewareNote .info s!"Request started: {r.title}"]

def outcomeNote (r : Request) (took : Duration) : Result → Record
  | .answered answer =>
    Journal.note .info .middleware
      s!"Request completed: {r.title} - Status: {answer.status} - Duration: {took.text}"
  | .failed (.engine e) =>
    Journal.note .warning .middleware
      s!"Workflow engine error: {r.title} - Error: {e.code} - Duration: {took.text}"
  | .failed f =>
    { Journal.note .error .middleware
        s!"Unexpected error: {r.title} - Error: {f.text} - Duration: {took.text}" with
      failure := some f }

def internalError (r : Request) (now : Instant) (f : Failure) : Answer where
  status := 500
  body := .dict [("error", .str "InternalServerError"),
    ("message", .str "An unexpected error occurred"),
    ("details", .dict [("error_type", .str f.kind), ("timestamp", .str now.isoText)]),
    ("request_id", .str r.id)]

def answerOf (r : Request) (now : Instant) : Result → Answer
  | .answered answer => answer
  | .failed (.engine e) => ⟨e.kind.status, e.response now⟩
  | .failed f => internalError r now f

def slowNote (r : Request) (took : Duration) (threshold : Value) : Record :=
  { Journal.note .warning .middleware
      s!"Slow request detected: {r.title} - Duration: {took.text} (threshold: {threshold.text}s)" with
    extra := [("method", .str r.method), ("path", .str r.shownPath),
      ("duration", .float took.seconds), ("threshold", threshold)] }

/-- What the journal does after the endpoint is done. -/
def closing (r : Request) (took : Duration) (threshold : Value) (now : Instant) (result : Result) :
    List Tape.Step :=
  [.write (outcomeNote r took result), .leave] ++
    (if isBelow threshold took.seconds then [.write (slowNote r took threshold)] else []) ++
    [middlewareNote .debug
      s!"Response details: Status {(answerOf r now result).status} - Duration: {took.text}"]

end Automation.Service
