import Automation.CommandLine.Session
import Std.Time.DateTime.Timestamp

/-!
The program on a real machine: its arguments, variables and files are read, the command line is carried
out, and what it printed and wrote is passed on. Databases last as long as the program, no request
gets through, and a server that was started is left at once.
-/
namespace Automation

def readEnvironment : IO Environment := do
  let names := Config.variableNames.map (Config.variablePrefix ++ ·)
  let values ← names.mapM fun name => do return (← IO.getEnv name).map fun value => (name, value)
  return values.filterMap id

def mentionedPaths (words : List String) (env : Environment) : List String :=
  Config.standardEnvFile ::
    (words.flatMap fun word => word :: (CommandLine.cutArgument word).2.toList) ++ env.map Prod.snd

def readFileAt (tree : FileTree) (path : String) : IO FileTree := do
  if path.isEmpty then return tree
  let contents ← (IO.FS.readFile path).toBaseIO
  match contents with
  | .ok text => return tree.put (tree.place path) text
  | .error _ => return tree

def pathText (place : List String) : String := "/" ++ "/".intercalate place

/-- Passes on the files and folders that are new or changed. A file that was not read grows. -/
def writeChanges (old new : FileTree) : IO Unit := do
  for place in new.folders do
    unless old.isFolder place do IO.FS.createDirAll (pathText place)
  for (place, text) in new.files do
    match old.files.lookup place with
    | some before => unless before == text do IO.FS.writeFile (pathText place) text
    | none =>
      let file ← IO.FS.Handle.mk (pathText place) .append
      file.putStr text

/-- A network that no request gets through. -/
def noNetwork (timeout : Value) (_ : Nat) (request : Http.Request) : Http.Exchange :=
  Http.exchange timeout (fun _ => .error (.reported "ConnectionError" "there is no network")) request

def runProgram (words : List String) : IO UInt32 := do
  let env ← readEnvironment
  let home := ((← IO.currentDir).toString.splitOn "/").filter (· != "")
  let empty : FileTree := { home, folders := FileTree.prefixes home }
  let files ← (mentionedPaths words env).foldlM readFileAt empty
  let now ← Std.Time.Timestamp.now
  let machine : Machine :=
    { files, network := noNetwork, newId := fun n => s!"{n + 1}"
      now := { microseconds := now.toMillisecondsSinceUnixEpoch.val * 1000 } }
  let (report, machine) := machine.run words env
  for line in report.lines do IO.println line
  for line in report.complaint.toList do IO.eprintln line
  writeChanges files machine.files
  return report.exit.toUInt32

end Automation

def main (words : List String) : IO UInt32 := Automation.runProgram words
