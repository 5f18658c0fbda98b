import Automation.Files
import Automation.Journal.Layout
import Automation.Text.Letter

/-!
Where the journal goes: to the console, and to a file that is changed for a new one before it grows too
large. Every part of the program has a level below which its records are dropped: its own, or that of
the nearest part that contains it, or that of the whole.
-/
namespace Automation.Journal

structure LogFile where
  place : List String
  /-- The size that the file stays below, where it is positive. -/
  maxSize : Int
  /-- How many older files are kept. -/
  backups : Int
  deriving DecidableEq, Repr, Inhabited

inductive Outlet where
  | console (layout : Layout)
  | file (file : LogFile) (layout : Layout)
  deriving DecidableEq, Repr, Inhabited

structure Setup where
  level : Level := .warning
  /-- The levels of parts of the program, by name. -/
  levels : Fields Level := []
  outlets : List Outlet := []
  deriving Inhabited

structure Options where
  level : String := "INFO"
  file : Option String := none
  template : Option String := none
  structured : Bool := false
  maxSize : Int := 10485760
  backups : Int := 5
  deriving DecidableEq, Repr, Inhabited

/-- The levels of parts that have one of their own. Only the core of the program shows details, and only
where the whole journal does. -/
def partLevels (detailed : Bool) : Fields Level :=
  [("uvicorn", .info), ("uvicorn.access", .warning), ("sqlalchemy.engine", .warning),
    ("sqlalchemy.pool", .warning), ("urllib3", .warning),
    ("flowengine.core", if detailed then .debug else .info), ("flowengine.api", .info)]

def enclosing (name : String) : String := ".".intercalate (name.splitOn ".").dropLast

/-- The level of the nearest of a part and those around it that has one. The name has at most as many
words as characters, so its length bounds the search. -/
def nearestLevel (levels : Fields Level) (whole : Level) : Nat → String → Level
  | 0, _ => whole
  | fuel + 1, name =>
    if name = "" || name = Source.application.name then whole
    else match levels.get? name with
      | some level => if level = .notSet then nearestLevel levels whole fuel (enclosing name) else level
      | none => nearestLevel levels whole fuel (enclosing name)

/-- The name of a file that was changed for a newer one. -/
def backupPlace (place : List String) (n : Nat) : List String :=
  place.dropLast ++ [place.getLastD "" ++ s!".{n}"]

/-- Gives a file a new name, over the file that has it. -/
def moveFile (old new : List String) (t : FileTree) : FileTree :=
  match t.files.lookup old with
  | some text => ((t.erase new).erase old).put new text
  | none => t

/-- Moves the older files up by one, from the last number down. -/
def shiftBackups (place : List String) : Nat → FileTree → FileTree
  | 0, t => t
  | n + 1, t => shiftBackups place n (moveFile (backupPlace place (n + 1)) (backupPlace place (n + 2)) t)

/-- Changes the file for a new one. With no older files kept, it is left to grow. -/
def rotate (f : LogFile) (t : FileTree) : FileTree :=
  if f.backups ≤ 0 then t
  else
    let t := shiftBackups f.place (f.backups.toNat - 1) t
    (moveFile f.place (backupPlace f.place 1) t).put f.place ""

def isFull (f : LogFile) (text line : String) : Bool :=
  0 < f.maxSize && f.maxSize ≤ (text.utf8ByteSize + line.length + 1 : Nat)

def appendLine (f : LogFile) (line : String) (t : FileTree) : FileTree :=
  let t := if isFull f ((t.files.lookup f.place).getD "") line then rotate f t else t
  t.put f.place ((t.files.lookup f.place).getD "" ++ line ++ "\n")

/-- A path without empty names and single dots. -/
def tidyPath (path : String) : String :=
  let names := (path.splitOn "/").filter fun n => n != "" && n != "."
  let start := if path.toList.head? == some '/' then "/" else ""
  let text := start ++ "/".intercalate names
  if text = "" then "." else text

def prepareFolder (path : String) (t : FileTree) : Except FileTree.FolderFault FileTree :=
  let folder := tidyPath (folderText path)
  let place := t.place folder
  if t.isFile place then .error (.taken folder)
  else if (FileTree.prefixes place).any t.isFile then .error (.notFolder folder)
  else .ok (t.addFolders place)

namespace Setup

/-- The level below which the records of a part are dropped. -/
def effective (s : Setup) (name : String) : Level :=
  nearestLevel s.levels s.level (name.length + 1) name

/-- Whether a record is written. One without a level never is. -/
def admits (s : Setup) (r : Record) : Bool :=
  0 < r.level.rank && (s.effective r.source).rank ≤ r.level.rank

/-- The file of a journal, made where it is missing. -/
def openFile (o : Options) (path : String) (t : FileTree) :
    Except FileTree.FolderFault (LogFile × FileTree) :=
  (prepareFolder path t).map fun t =>
    let place := t.place path
    (⟨place, o.maxSize, o.backups⟩, if t.isFile place then t else t.put place "")

def noLevel (word : String) : Failure :=
  .reported "AttributeError" s!"module 'logging' has no attribute '{word}'"

/-- Sets the journal up. A wrong template or level changes nothing; a file that cannot be made leaves
the console. -/
def configure (o : Options) (s : Setup) (t : FileTree) : Except Failure Unit × Setup × FileTree :=
  match Layout.make o.structured o.template with
  | .error f => (.error f, s, t)
  | .ok layout =>
    let word := Text.upper o.level
    match Level.ofName? word with
    | none => (.error (noLevel word), s, t)
    | some level =>
      let s := { s with level := level, outlets := [.console layout] }
      let levels := s.levels.update (partLevels (level == .debug))
      match o.file with
      | none => (.ok (), { s with levels }, t)
      | some path =>
        if path = "" then (.ok (), { s with levels }, t)
        else match openFile o path t with
          | .error fault => (.error fault.failure, s, t)
          | .ok (file, t) =>
            (.ok (), { s with levels, outlets := s.outlets ++ [.file file layout] }, t)

/-- Sends a record through one outlet: the lines for the console, and the files after it. -/
def emitTo (e : Entry) (now : Instant) : Outlet → FileTree → List String × FileTree
  | .console layout, t => ((e.line? layout now).toList, t)
  | .file file layout, t =>
    match e.line? layout now with
    | some line => ([], appendLine file line t)
    | none => ([], t)

def emit (s : Setup) (e : Entry) (now : Instant) (t : FileTree) : List String × FileTree :=
  if s.admits e.record then
    s.outlets.foldl (fun (lines, t) outlet =>
      let (more, t) := emitTo e now outlet t
      (lines ++ more, t)) ([], t)
  else ([], t)

def emitAll (s : Setup) (entries : List Entry) (now : Instant) (t : FileTree) :
    List String × FileTree :=
  entries.foldl (fun (lines, t) e =>
    let (more, t) := s.emit e now t
    (lines ++ more, t)) ([], t)

end Setup
end Automation.Journal
