import Automation.Failure

/-!
A tree of files and folders, with a folder from which relative paths start. A path is cut at its
slashes; empty names and single dots stand for nothing, and two dots lead one folder up.
-/
namespace Automation

/-- A file system. Places are lists of names from the root. -/
structure FileTree where
  /-- Where relative paths start. -/
  home : List String
  folders : List (List String) := []
  files : List (List String × String) := []
  deriving Inhabited

def splitLast (path : List Char) : List Char × List Char :=
  let name := (path.reverse.takeWhile (· != '/')).reverse
  (path.take (path.length - name.length), name)

/-- A path without its slashes at the end, unless it has nothing else. -/
def dropSlashes (path : List Char) : List Char :=
  if path.all (· == '/') then path else (path.reverse.dropWhile (· == '/')).reverse

def folderText (path : String) : String :=
  String.ofList (dropSlashes (splitLast path.toList).1)

namespace FileTree

def walkNames (place : List String) : List String → List String
  | [] => place
  | name :: rest =>
    if name = "" || name = "." then walkNames place rest
    else if name = ".." then walkNames place.dropLast rest
    else walkNames (place ++ [name]) rest

def place (t : FileTree) (path : String) : List String :=
  let start := if path.toList.head? == some '/' then [] else t.home
  walkNames start (path.splitOn "/")

def isFolder (t : FileTree) (place : List String) : Bool := t.folders.contains place

def isFile (t : FileTree) (place : List String) : Bool := (t.files.lookup place).isSome

/-- Whether there is anything at a path; the empty path names nothing. -/
def exists? (t : FileTree) (path : String) : Bool :=
  path != "" && (t.isFolder (t.place path) || t.isFile (t.place path))

def read? (t : FileTree) (path : String) : Option String := t.files.lookup (t.place path)

def put (t : FileTree) (place : List String) (text : String) : FileTree :=
  if t.isFile place then
    { t with files := t.files.map fun (p, s) => if p = place then (p, text) else (p, s) }
  else { t with files := t.files ++ [(place, text)] }

def erase (t : FileTree) (place : List String) : FileTree :=
  { t with files := t.files.filter fun (p, _) => p != place }

/-- Every folder on the way to a place, the place itself included. -/
def prefixes (place : List String) : List (List String) :=
  (List.range (place.length + 1)).map (place.take ·)

/-- Makes the folders on the way to a place as well as the place. -/
def addFolders (t : FileTree) (place : List String) : FileTree :=
  { t with folders := t.folders ++ (prefixes place).filter (!t.folders.contains ·) }

inductive FolderFault where
  | notFolder (path : String)
  | missing (path : String)
  | taken (path : String)
  deriving DecidableEq, Repr

namespace FolderFault

def text : FolderFault → String
  | .notFolder path => s!"[Errno 20] Not a directory: {Text.quoted path}"
  | .missing path => s!"[Errno 2] No such file or directory: {Text.quoted path}"
  | .taken path => s!"[Errno 17] File exists: {Text.quoted path}"

def kind : FolderFault → String
  | .notFolder _ => "NotADirectoryError"
  | .missing _ => "FileNotFoundError"
  | .taken _ => "FileExistsError"

def failure (f : FolderFault) : Failure := .reported f.kind f.text

end FolderFault

def makeFolder (t : FileTree) (path : String) : Except FolderFault FileTree :=
  let place := t.place path
  if t.isFolder place || t.isFile place then .error (.taken path)
  else if (prefixes place).any t.isFile then .error (.notFolder path)
  else if t.isFolder place.dropLast then .ok { t with folders := t.folders ++ [place] }
  else .error (.missing path)

def ensureFolder (t : FileTree) (path : String) : Except FolderFault FileTree :=
  if t.isFolder (t.place path) then .ok t else t.makeFolder path

def cutLast (path : String) : String × String :=
  let cut (cs : List Char) : List Char × List Char :=
    let (head, name) := splitLast cs
    (dropSlashes head, name)
  let (head, name) := cut path.toList
  let (head, name) := if name.isEmpty then cut head else (head, name)
  (String.ofList head, String.ofList name)

/-- Makes a folder and all that is missing on the way to it. Each step has a shorter path, so its
length bounds the number of steps. -/
def makeFoldersWithin (t : FileTree) : Nat → String → Except FolderFault FileTree
  | 0, path => t.ensureFolder path
  | fuel + 1, path =>
    let (head, name) := cutLast path
    if head != "" && name != "" && !t.exists? head then
      match t.makeFoldersWithin fuel head with
      | .error (.taken _) => t.ensureFolder path
      | .error e => .error e
      | .ok t => if name = "." then .ok t else t.ensureFolder path
    else t.ensureFolder path

def makeFolders (t : FileTree) (path : String) : Except FolderFault FileTree :=
  t.makeFoldersWithin path.length path

end FileTree
end Automation
