import Automation.Instant.Reader
import Automation.Value.Basic

/-!
What can be wrong with a document: a place in it and a cause. All problems of a document are found
together, in the order of its fields.
-/
namespace Automation.Document

/-- One step down into a document: a field, or an item of a list. -/
inductive Step where
  | field (name : String)
  | item (index : Nat)
  deriving DecidableEq, Repr

def Step.text : Step → String
  | .field name => name
  | .item index => toString index

/-- What may stand at a place but does not. -/
inductive Cause where
  | missing
  | notText
  | notMapping
  | notList
  /-- The fields of a record were expected. -/
  | notRecord (name : String)
  /-- The fields of a record were expected in the body of a request. -/
  | notRequestRecord
  | notInteger
  | unreadableInteger
  | oversizedInteger
  | fractional
  | notFinite
  | notNumber
  | unreadableNumber
  | notTruth
  | unreadableTruth
  /-- None of the words of a fixed list. -/
  | notOneOf (words : List String)
  | notTime
  | unreadableTime (error : Instant.DateError)
  /-- A number that stands for no point in time. -/
  | impossibleTime (error : Instant.DateError)
  /-- A rule of the domain is broken. -/
  | rule (message : String)
  deriving DecidableEq, Repr, Inhabited

def Cause.code : Cause → String
  | .missing => "missing"
  | .notText => "string_type"
  | .notMapping => "dict_type"
  | .notList => "list_type"
  | .notRecord _ => "model_type"
  | .notRequestRecord => "model_attributes_type"
  | .notInteger => "int_type"
  | .unreadableInteger => "int_parsing"
  | .oversizedInteger => "int_parsing_size"
  | .fractional => "int_from_float"
  | .notFinite => "finite_number"
  | .notNumber => "float_type"
  | .unreadableNumber => "float_parsing"
  | .notTruth => "bool_type"
  | .unreadableTruth => "bool_parsing"
  | .notOneOf _ => "enum"
  | .notTime => "datetime_type"
  | .unreadableTime _ => "datetime_from_date_parsing"
  | .impossibleTime _ => "datetime_parsing"
  | .rule _ => "value_error"

/-- Words in quotes, with commas and an "or" before the last. -/
def alternatives : List String → String
  | [] => ""
  | [word] => s!"'{word}'"
  | [word, last] => s!"'{word}' or '{last}'"
  | word :: rest => s!"'{word}', {alternatives rest}"

def Cause.message : Cause → String
  | .missing => "Field required"
  | .notText => "Input should be a valid string"
  | .notMapping => "Input should be a valid dictionary"
  | .notList => "Input should be a valid list"
  | .notRecord name => s!"Input should be a valid dictionary or instance of {name}"
  | .notRequestRecord => "Input should be a valid dictionary or object to extract fields from"
  | .notInteger => "Input should be a valid integer"
  | .unreadableInteger => "Input should be a valid integer, unable to parse string as an integer"
  | .oversizedInteger => "Unable to parse input string as an integer, exceeded maximum size"
  | .fractional => "Input should be a valid integer, got a number with a fractional part"
  | .notFinite => "Input should be a finite number"
  | .notNumber => "Input should be a valid number"
  | .unreadableNumber => "Input should be a valid number, unable to parse string as a number"
  | .notTruth => "Input should be a valid boolean"
  | .unreadableTruth => "Input should be a valid boolean, unable to interpret input"
  | .notOneOf words => s!"Input should be {alternatives words}"
  | .notTime => "Input should be a valid datetime"
  | .unreadableTime error => s!"Input should be a valid datetime or date, {error.message}"
  | .impossibleTime error => s!"Input should be a valid datetime, {error.message}"
  | .rule message => s!"Value error, {message}"

structure Problem where
  path : List Step
  cause : Cause
  found : Value
  deriving Inhabited

/-- The same problem seen from one level further up. -/
def Problem.under (step : Step) (p : Problem) : Problem := { p with path := step :: p.path }

def Problem.place (p : Problem) : String := ".".intercalate (p.path.map Step.text)

end Automation.Document
