import Automation.Json.Writer
import Automation.Journal.Tape
import Automation.Stack
import Automation.Text.Template

/-!
Lines of the journal. A record becomes a line of JSON with all its fields, or the text of a template
that names the parts of a record that it shows.
-/
namespace Automation.Journal

open Text (isDigit)

inductive Layout where
  | structured
  | template (text : String)
  deriving DecidableEq, Repr, Inhabited

namespace Layout

def detailed : String :=
  "%(asctime)s - %(name)s - %(levelname)s - [%(module)s:%(funcName)s:%(lineno)d] - %(message)s"

/-- The letters that end a directive of a template for lines. -/
def letters : List Char := "diouxefgcrsa%".toList

/-- The characters of the name of a part of a record. -/
def isWordChar (c : Char) : Bool := c.isAlphanum || c == '_' || 128 ≤ c.toNat

/-- A star or digits, if they are there. -/
def dropSize (cs : List Char) : List Char :=
  match cs with
  | '*' :: rest => rest
  | _ => cs.dropWhile isDigit

/-- Whether a text begins with a directive that names a part of a record. -/
def beginsWithDirective (cs : List Char) : Bool :=
  match cs with
  | '%' :: '(' :: rest =>
    match rest.takeWhile isWordChar, rest.dropWhile isWordChar with
    | _ :: _, ')' :: after =>
      let afterWidth := dropSize (after.dropWhile Text.Template.isFlag)
      let afterPrecision := match afterWidth with
        | '.' :: c :: more => if c == '*' || isDigit c then dropSize (c :: more) else afterWidth
        | _ => afterWidth
      match afterPrecision with
      | letter :: _ => letters.contains letter.toLower
      | [] => false
    | _, _ => false
  | _ => false

/-- Whether a text has a directive that names a part of a record. -/
def hasDirective : List Char → Bool
  | [] => false
  | c :: rest => beginsWithDirective (c :: rest) || hasDirective rest

/-- The layout of a template, which has to show some part of a record. The empty template shows the
message. -/
def ofTemplate (template : String) : Except Failure Layout :=
  let template := if template = "" then "%(message)s" else template
  if hasDirective template.toList then .ok (.template template)
  else .error (.reported "ValueError" s!"Invalid format '{template}' for '%' style")

/-- The layout of lines that are structured, or follow a template, or the detailed one. -/
def make (structured : Bool) (template : Option String) : Except Failure Layout :=
  if structured then .ok .structured else ofTemplate (template.getD detailed)

end Layout

def failureFields (f : Failure) : Value := .dict [("type", .str f.kind), ("message", .str f.text)]

namespace Entry

/-- The fields of a record together with those in force, which win. -/
def allFields (e : Entry) : Fields Value := e.record.extra.update e.fields

def facts (e : Entry) (now : Instant) : Fields Value :=
  let r := e.record
  let base : Fields Value :=
    [("timestamp", .str (now.isoText ++ "Z")), ("level", .str r.level.name),
      ("logger", .str r.source), ("message", .str r.message), ("module", .str r.source),
      ("function", .str ""), ("line", .int 0)] ++
      (r.failure.map fun f => ("exception", failureFields f)).toList
  base.update e.allFields

def parts (e : Entry) (now : Instant) : Fields Value :=
  let r := e.record
  [("asctime", .str now.stampText), ("name", .str r.source), ("levelname", .str r.level.name),
    ("levelno", .int r.level.rank), ("message", .str r.message), ("msg", .str r.message),
    ("module", .str r.source), ("funcName", .str ""), ("lineno", .int 0), ("pathname", .str ""),
    ("filename", .str ""), ("threadName", .str "MainThread"), ("processName", .str "MainProcess"),
    ("extra_fields", .dict e.allFields)]

/-- A line with the report of a failure below it. -/
def withReport (line : String) : Option Failure → String
  | none => line
  | some f => (if line.endsWith "\n" then line else line ++ "\n") ++ f.report

/-- The line of a record. A record that cannot be written leaves none. -/
def line? (e : Entry) (layout : Layout) (now : Instant) : Option String :=
  match layout with
  | .structured =>
    let v := Value.dict (e.facts now)
    if v.fits Stack.line then some (Json.write Json.spaced v) else none
  | .template text =>
    (Text.Template.fill? text (.named (e.parts now) true)).map (withReport · e.record.failure)

end Entry
end Automation.Journal
