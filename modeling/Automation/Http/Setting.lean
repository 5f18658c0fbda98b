import Automation.Expression.Resolver

/-!
The headers and the body of an http node, decoded from its settings. Text that is no JSON counts as
an empty mapping; only nesting beyond what is read is a failure.
-/
namespace Automation.Http

def nestingName : Json.Nesting → String
  | .array => "array"
  | .object => "object"

/-- Data from JSON text, if the text is JSON. -/
def decode? (s : String) : Except Failure (Option Value) :=
  match Json.read Stack.settingText s with
  | .ok v => .ok (some v)
  | .error (.tooDeep opening) => .error (.nestedTooDeep (nestingName opening))
  | .error _ => .ok none

/-- A body: text is decoded, other data stands for itself. -/
def decodeBody : Value → Except Failure Value
  | .str s =>
    match decode? s with
    | .error e => .error e
    | .ok (some .null) | .ok none => .ok (.dict [])
    | .ok (some v) => .ok v
  | v => .ok v

/-- The headers as they are written in the settings, before substitution. -/
def headerTemplates : Value → Except Failure (Fields Value)
  | .dict fields => .ok fields
  | .str s =>
    if s = "" then .ok []
    else match decode? s with
      | .error e => .error e
      | .ok (some (.dict fields)) => .ok fields
      | .ok _ => .ok []
  | _ => .ok []

/-- Headers: a mapping, or JSON text of one, in whose values placeholders are substituted. -/
def decodeHeaders (outputs : Outputs) (raw : Value) : Except Failure (Fields Value) :=
  match headerTemplates raw with
  | .error e => .error e
  | .ok fields => outputs.resolveFields Stack.header fields

end Automation.Http
