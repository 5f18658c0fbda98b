import Automation.Journal.Record

/-!
What the journal of one thread takes down: every record together with the fields that were in force
when it was written. Fields stay in force until they are all taken off.
-/
namespace Automation.Journal

structure Entry where
  record : Record
  fields : Fields Value
  deriving Inhabited

structure Tape where
  entries : List Entry := []
  fields : Fields Value := []
  deriving Inhabited

namespace Tape

def write (tape : Tape) (record : Record) : Tape :=
  { tape with entries := tape.entries ++ [⟨record, tape.fields⟩] }

/-- Puts fields in force, beside those that are in force already. -/
def enter (tape : Tape) (fields : Fields Value) : Tape :=
  { tape with fields := tape.fields.update fields }

/-- Takes off all fields. -/
def leave (tape : Tape) : Tape := { tape with fields := [] }

inductive Step where
  | enter (fields : Fields Value)
  | write (record : Record)
  | leave
  deriving Inhabited

def perform (tape : Tape) : Step → Tape
  | .enter fields => tape.enter fields
  | .write record => tape.write record
  | .leave => tape.leave

def performAll (tape : Tape) (steps : List Step) : Tape := steps.foldl perform tape

end Tape
end Automation.Journal
