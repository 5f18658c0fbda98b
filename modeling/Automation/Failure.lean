import Automation.Document.Problem
import Automation.Text.Quoted
import Automation.Value.Text

/-!
What can go wrong, by cause. The engine's own errors carry a severity, a category, details and a
context; the other failures are those of reading and writing data, and those that a collaborator
reports. `Failure.kind` and `Failure.text` are the words under which a failure is reported.
-/
namespace Automation

inductive Severity where
  | low
  | medium
  | high
  | critical
  deriving DecidableEq, Repr, Inhabited

def Severity.text : Severity → String
  | .low => "low"
  | .medium => "medium"
  | .high => "high"
  | .critical => "critical"

def Severity.all : List Severity := [.low, .medium, .high, .critical]

def Severity.ofText? (s : String) : Option Severity := Severity.all.find? (·.text == s)

inductive Category where
  | validation
  | execution
  | storage
  | network
  | configuration
  deriving DecidableEq, Repr, Inhabited

def Category.text : Category → String
  | .validation => "validation"
  | .execution => "execution"
  | .storage => "storage"
  | .network => "network"
  | .configuration => "configuration"

def Category.all : List Category := [.validation, .execution, .storage, .network, .configuration]

def Category.ofText? (s : String) : Option Category := Category.all.find? (·.text == s)

inductive EngineErrorKind where
  | general
  | graphValidation
  | nodeExecution
  | executionEngine
  | storage
  /-- A storage error: the record does not exist. -/
  | notFound
  | httpTransport
  | configuration
  deriving DecidableEq, Repr, Inhabited

namespace EngineErrorKind

def name : EngineErrorKind → String
  | .general => "WorkflowEngineError"
  | .graphValidation => "GraphValidationError"
  | .nodeExecution => "NodeExecutionError"
  | .executionEngine => "ExecutionEngineError"
  | .storage => "StorageError"
  | .notFound => "NotFoundError"
  | .httpTransport => "HttpTransportError"
  | .configuration => "ConfigurationError"

def all : List EngineErrorKind :=
  [.general, .graphValidation, .nodeExecution, .executionEngine, .storage, .notFound,
    .httpTransport, .configuration]

def severity : EngineErrorKind → Severity
  | .general | .graphValidation | .httpTransport => .medium
  | _ => .high

def category : EngineErrorKind → Category
  | .graphValidation => .validation
  | .general | .nodeExecution | .executionEngine => .execution
  | .storage | .notFound => .storage
  | .httpTransport => .network
  | .configuration => .configuration

/-- Whether trying again may help. -/
def recoverable : EngineErrorKind → Bool
  | .nodeExecution | .storage | .httpTransport => true
  | _ => false

/-- The facts that the context of an error tells, in order. -/
def factNames : EngineErrorKind → List String
  | .general => []
  | .graphValidation => ["workflow_name"]
  | .nodeExecution => ["node_id", "node_type"]
  | .executionEngine => ["execution_id", "workflow_id"]
  | .storage => ["operation", "table"]
  | .notFound => ["operation", "table", "resource", "resource_id"]
  | .httpTransport => ["method", "url"]
  | .configuration => ["config_key"]

/-- What a kind of error settles itself and cannot be told otherwise. -/
def settled : EngineErrorKind → List String
  | .general => []
  | .nodeExecution | .storage | .notFound | .httpTransport => ["severity", "category", "recoverable"]
  | .graphValidation | .executionEngine | .configuration => ["severity", "category"]

def status : EngineErrorKind → Nat
  | .graphValidation => 400
  | .notFound => 404
  | .httpTransport => 502
  | .executionEngine => 503
  | _ => 500

end EngineErrorKind

structure EngineError where
  kind : EngineErrorKind
  message : String
  code : String := kind.name
  severity : Severity := kind.severity
  category : Category := kind.category
  recoverable : Bool := kind.recoverable
  details : Fields Value := []
  context : Fields Value := []
  /-- What is wrong with a graph; only graph errors have such a list. -/
  validationErrors : Option (List String) := if kind = .graphValidation then some [] else none
  deriving Inhabited

structure ErrorOptions where
  code : String := ""
  severity : Option Severity := none
  category : Option Category := none
  recoverable : Option Bool := none
  details : Fields Value := []
  context : Fields Value := []
  deriving Inhabited

namespace EngineError

def addContext (e : EngineError) (fields : Fields Value) : EngineError :=
  { e with context := e.context.update fields }

def addDetails (e : EngineError) (fields : Fields Value) : EngineError :=
  { e with details := e.details.update fields }

/-- Adds those of the named facts that are given: what is absent or empty is left out. -/
def note (e : EngineError) (facts : List (String × Value)) : EngineError :=
  e.addContext (facts.filter fun (_, v) => v.isTruthy)

/-- Adds what is given of the facts that belong to the kind of the error. -/
def withFacts (e : EngineError) (given : Fields Value) : EngineError :=
  e.note (e.kind.factNames.map fun name => (name, (given.get? name).getD .null))

/-- The errors of a rejected graph, in the details as well. -/
def withValidationErrors (e : EngineError) (errors : List String) : EngineError :=
  let e := { e with validationErrors := some errors }
  if errors.isEmpty then e else e.addDetails [("validation_errors", .ofStrings errors)]

/-- An error with more told about it than its kind tells. An empty code counts as none. -/
def raised (kind : EngineErrorKind) (message : String) (options : ErrorOptions)
    (given : Fields Value) : EngineError :=
  let e : EngineError :=
    { kind, message
      code := if options.code = "" then kind.name else options.code
      severity := options.severity.getD kind.severity
      category := options.category.getD kind.category
      recoverable := options.recoverable.getD kind.recoverable
      details := options.details
      context := options.context }
  let e := e.withFacts given
  match kind, given.get? "validation_errors" with
  | .graphValidation, some (.list errors) => e.withValidationErrors (errors.map Value.text)
  | _, _ => e

/-- All facts about an error but the time. -/
def facts (e : EngineError) : Fields Value :=
  [("error_code", .str e.code), ("message", .str e.message), ("severity", .str e.severity.text),
    ("category", .str e.category.text), ("details", .dict e.details),
    ("recoverable", .bool e.recoverable), ("context", .dict e.context),
    ("exception_type", .str e.kind.name)]

/-- The answer to a client, with the time of the error. -/
def response (e : EngineError) (time : Instant) : Value :=
  let details := e.details.update
    [("severity", .str e.severity.text), ("category", .str e.category.text),
      ("recoverable", .bool e.recoverable), ("timestamp", .str time.isoText)]
  .dict [("error", .str e.code), ("message", .str e.message), ("details", .dict details),
    ("context", .dict e.context)]

end EngineError

inductive Failure where
  | engine (error : EngineError)
  /-- A document breaks the rules of its record type. -/
  | invalid (record : String) (problems : List Document.Problem)
  /-- An integer beyond the range of doubles. -/
  | integerTooLarge
  /-- A text that is no number. -/
  | notNumber (text : String)
  /-- A text that is no integer. -/
  | notInteger (text : String)
  /-- A text with more digits than an integer may have. -/
  | tooManyDigits (count : Nat)
  /-- An integer with more digits than are written. -/
  | unwritableInteger
  /-- A word that is not in a fixed list. -/
  | notMember (word list : String)
  /-- A JSON text nested deeper than there is room to read it. -/
  | nestedTooDeep (container : String)
  /-- Data nested deeper than there is room to write it. -/
  | writtenTooDeep
  /-- Data nested deeper than there is room to show it as text. -/
  | shownTooDeep
  /-- A failure that a collaborator reports, by kind and message. -/
  | reported (kind message : String)
  deriving Inhabited

namespace Failure

def kind : Failure → String
  | .engine e => e.kind.name
  | .invalid _ _ => "ValidationError"
  | .integerTooLarge => "OverflowError"
  | .notNumber _ | .notInteger _ | .tooManyDigits _ | .unwritableInteger | .notMember _ _ =>
    "ValueError"
  | .nestedTooDeep _ | .writtenTooDeep | .shownTooDeep => "RecursionError"
  | .reported kind _ => kind

/-- The most bytes of the data that a report of problems shows whole. -/
def shownLimit : Nat := 50

/-- The longest start of a text that takes up at most so many bytes. -/
def fitting : Nat → List Char → List Char
  | _, [] => []
  | room, c :: rest => if c.utf8Size ≤ room then c :: fitting (room - c.utf8Size) rest else []

/-- A text, or both ends of it if it is long. -/
def shortened (s : String) : String :=
  if s.utf8ByteSize ≤ shownLimit then s
  else
    let half := shownLimit / 2
    let ending := (fitting (half - 1) s.toList.reverse).reverse
    String.ofList (fitting half s.toList ++ "...".toList ++ ending)

def explanations : String := "errors.pydantic.dev/2.14/v/"

def problemLines (p : Document.Problem) : List String :=
  let code := p.cause.code
  let found := shortened p.found.quotedText
  let place := if p.path.isEmpty then [] else [p.place]
  place ++
    [s!"  {p.cause.message} [type={code}, input_value={found}, input_type={p.found.typeName}]",
      "    For further information visit https:" ++ "//" ++ explanations ++ code]

/-- The most characters that a quoted text takes up in the message about a wrong integer. -/
def quotedLimit : Nat := 200

/-- The message of a failure. The message about a missing key is the key, in quotes. -/
def text : Failure → String
  | .engine e => e.message
  | .invalid record problems =>
    let count := problems.length
    let noun := if count = 1 then "validation error" else "validation errors"
    "\n".intercalate (s!"{count} {noun} for {record}" :: problems.flatMap problemLines)
  | .integerTooLarge => "int too large to convert to float"
  | .notNumber s => s!"could not convert string to float: {Text.quoted s}"
  | .notInteger s =>
    let shown := String.ofList ((Text.quoted s).toList.take quotedLimit)
    s!"invalid literal for int() with base 10: {shown}"
  | .tooManyDigits count =>
    s!"Exceeds the limit ({Number.maxDigits} digits) for integer string conversion: value has " ++
      s!"{count} digits; use sys.set_int_max_str_digits() to increase the limit"
  | .unwritableInteger =>
    s!"Exceeds the limit ({Number.maxDigits} digits) for integer string conversion; " ++
      "use sys.set_int_max_str_digits() to increase the limit"
  | .notMember word list => s!"{Text.quoted word} is not a valid {list}"
  | .nestedTooDeep container =>
    s!"maximum recursion depth exceeded while decoding a JSON {container} from a unicode string"
  | .writtenTooDeep => "maximum recursion depth exceeded while encoding a JSON object"
  | .shownTooDeep => "maximum recursion depth exceeded while getting the repr of an object"
  | .reported kind message => if kind = "KeyError" then Text.quoted message else message

/-- Where the kinds of errors of the engine are declared. -/
def engineModule : String := "flowengine.core.exceptions"

/-- The full name of a kind of failure and, behind a colon, the message if there is one. -/
def report (f : Failure) : String :=
  let name := match f with
    | .engine e => s!"{engineModule}.{e.kind.name}"
    | f => f.kind
  if f.text = "" then name else s!"{name}: {f.text}"

def commonOptions : List String :=
  ["error_code", "severity", "category", "details", "recoverable", "context"]

def optionsOf (kind : EngineErrorKind) : List String :=
  let own := if kind = .graphValidation then ["validation_errors"] else []
  own ++ kind.factNames ++ commonOptions

/-- What is wrong with what is told about an error: it is told twice, or it is nothing that errors of
the kind know. -/
def misuse? (kind : EngineErrorKind) (names : List String) : Option Failure :=
  let wrong (who what name : String) : Failure :=
    .reported "TypeError" s!"{who}.__init__() got {what} '{name}'"
  if names.contains "message" then
    some (wrong kind.name "multiple values for argument" "message")
  else match names.find? kind.settled.contains with
    | some name =>
      some (wrong s!"{engineModule}.{EngineErrorKind.general.name}"
        "multiple values for keyword argument" name)
    | none =>
      (names.find? (!(optionsOf kind).contains ·)).map
        (wrong EngineErrorKind.general.name "an unexpected keyword argument")

def ofKind (kind : EngineErrorKind) (message : String) : Failure :=
  .engine { kind := kind, message := message }

end Failure
end Automation
