import Automation.Text.Blank
import Automation.Value.Basic

/-!
Files of environment variables: one `NAME=value` a line, blank lines and comments between them. A value
may be quoted, with escapes inside, and may refer to other variables as `$` and a name in braces. A
line that is none of this is skipped.
-/
namespace Automation.EnvFile

open Automation.Text

/-- A blank that does not end a line. -/
def isInnerBlank (c : Char) : Bool := isBlank c && c != '\n' && c != '\r'

def skipInnerBlanks (cs : List Char) : List Char := cs.dropWhile isInnerBlank

def isLineEnd (c : Char) : Bool := c == '\n' || c == '\r'

/-- The word that may stand before a name, with the blanks after it. -/
def skipExport (cs : List Char) : List Char :=
  let word := "export".toList
  if word.isPrefixOf cs then
    match cs.drop word.length with
    | c :: rest => if isInnerBlank c then skipInnerBlanks rest else cs
    | [] => cs
  else cs

/-- A character of a name that is not quoted. -/
def isNameChar (c : Char) : Bool := c != '=' && c != '#' && !isBlank c

/-- A name, and what follows it. In front of a comment there is no name. -/
def name? (cs : List Char) : Option (Option (List Char) × List Char) :=
  match cs with
  | '#' :: _ => some (none, cs)
  | '\'' :: rest =>
    let name := rest.takeWhile (· != '\'')
    match rest.dropWhile (· != '\'') with
    | _ :: after => if name.isEmpty then none else some (some name, after)
    | [] => none
  | _ =>
    let name := cs.takeWhile isNameChar
    if name.isEmpty then none else some (some name, cs.dropWhile isNameChar)

/-- Cuts a text at the first quote that no backslash precedes; `before` is the character in front of
the text. -/
def cutAtBareQuote (quote before : Char) : List Char → Option (List Char × List Char)
  | [] => none
  | c :: rest =>
    if c == quote && before != '\\' then some ([], rest)
    else (cutAtBareQuote quote c rest).map fun (inside, after) => (c :: inside, after)

/-- Cuts a text at its last quote. -/
def cutAtLastQuote (quote : Char) (cs : List Char) : Option (List Char × List Char) :=
  if cs.contains quote then
    let after := (cs.reverse.takeWhile (· != quote)).reverse
    some (cs.take (cs.length - after.length - 1), after)
  else none

/-- What is inside quotes, and what follows them. The opening quote is already read. -/
def quoted? (quote : Char) (cs : List Char) : Option (List Char × List Char) :=
  (cutAtBareQuote quote quote cs).orElse fun _ => cutAtLastQuote quote cs

/-- The character that an escape in double quotes stands for. -/
def escaped? : Char → Option Char
  | '\\' => some '\\'
  | '\'' => some '\''
  | '"' => some '"'
  | 'a' => some (Char.ofNat 7)
  | 'b' => some (Char.ofNat 8)
  | 'f' => some (Char.ofNat 12)
  | 'n' => some '\n'
  | 'r' => some '\r'
  | 't' => some '\t'
  | 'v' => some (Char.ofNat 11)
  | _ => none

/-- Replaces escapes; a backslash before any other character stands for itself. -/
def unescape (escape : Char → Option Char) : List Char → List Char
  | [] => []
  | '\\' :: rest =>
    match rest with
    | [] => ['\\']
    | c :: after =>
      match escape c with
      | some d => d :: unescape escape after
      | none => '\\' :: unescape escape (c :: after)
  | c :: rest => c :: unescape escape rest

/-- In single quotes a backslash escapes only itself and the quote. -/
def escapedSingle? (c : Char) : Option Char := if c == '\\' || c == '\'' then some c else none

/-- A bare value without the comment that blanks set off from it. -/
def dropComment : List Char → List Char
  | [] => []
  | c :: rest =>
    let next := (rest.dropWhile isBlank).head?
    if isBlank c && next == some '#' then [] else c :: dropComment rest

def value? (cs : List Char) : Option (List Char × List Char) :=
  match cs with
  | [] => some ([], [])
  | '\'' :: rest => (quoted? '\'' rest).map fun (v, after) => (unescape escapedSingle? v, after)
  | '"' :: rest => (quoted? '"' rest).map fun (v, after) => (unescape escaped? v, after)
  | _ =>
    some (dropEnd isBlank (dropComment (cs.takeWhile (!isLineEnd ·))), cs.dropWhile (!isLineEnd ·))

/-- The end of a line, perhaps after a comment; the rest of the text. -/
def lineEnd? (cs : List Char) : Option (List Char) :=
  let afterBlanks := skipInnerBlanks cs
  let afterComment := match afterBlanks with
    | '#' :: _ => afterBlanks.dropWhile (!isLineEnd ·)
    | _ => afterBlanks
  match afterComment with
  | [] => some []
  | c :: rest => if isLineEnd c then some rest else none

/-- One line: a name with or without a value, or neither. -/
structure Line where
  name : Option (List Char)
  value : Option (List Char)

/-- The value after a name: none unless an equals sign follows. -/
def assigned? (cs : List Char) : Option (Option (List Char) × List Char) :=
  match cs with
  | '=' :: rest => (value? (skipInnerBlanks rest)).map fun (v, after) => (some v, after)
  | _ => some (none, cs)

/-- Reads a line that begins with no blank: the line, if it can be read, and the text after it. A line
that cannot be read ends where reading failed. -/
def readLine (cs : List Char) : Option Line × List Char :=
  let skipLine (cs : List Char) : List Char := (cs.dropWhile (!isLineEnd ·)).drop 1
  let start := skipExport cs
  match name? start with
  | none => (none, skipLine start)
  | some (name, afterName) =>
    let afterName := skipInnerBlanks afterName
    match assigned? afterName with
    | none =>
      let afterSign := skipInnerBlanks (afterName.drop 1)
      (none, skipLine afterSign)
    | some (value, afterValue) =>
      match lineEnd? afterValue with
      | some after => (some ⟨name, value⟩, after)
      | none =>
        let inner := skipInnerBlanks afterValue
        (none, skipLine inner)

/-- Reads all lines. Each takes up a character at least, so the length bounds their number. -/
def readLines : Nat → List Char → List Line
  | 0, _ => []
  | fuel + 1, cs =>
    match cs.dropWhile isBlank with
    | [] => []
    | start =>
      let (line, rest) := readLine start
      line.toList ++ readLines fuel rest

/-- Line ends of every kind as line feeds. A line feed right after a carriage return belongs to it. -/
def unifyLineEnds (afterReturn : Bool) : List Char → List Char
  | [] => []
  | c :: rest =>
    if c == '\r' then '\n' :: unifyLineEnds true rest
    else if afterReturn && c == '\n' then unifyLineEnds false rest
    else c :: unifyLineEnds false rest

def readVariables (text : String) : List (String × Option (List Char)) :=
  let cs := unifyLineEnds false text.toList
  (readLines cs.length cs).filterMap fun line =>
    line.name.map fun name => (String.ofList name, line.value)

/-- A reference to another variable, and what stands after it. The reference has begun already: a name
and perhaps, behind a colon and a dash, what stands for it where it has no value. -/
def reference? (cs : List Char) : Option (List Char × Option (List Char) × List Char) :=
  let name := cs.takeWhile fun c => c != '\x7d' && c != ':'
  match cs.drop name.length with
  | '\x7d' :: after => some (name, none, after)
  | ':' :: '-' :: rest =>
    match rest.dropWhile (· != '\x7d') with
    | _ :: after => some (name, some (rest.takeWhile (· != '\x7d')), after)
    | [] => none
  | _ => none

/-- Replaces references by the values that they refer to. Each round takes a character at least, so the
length bounds their number. -/
def substitute (lookup : String → Option String) : Nat → List Char → List Char
  | 0, _ => []
  | _, [] => []
  | fuel + 1, c :: rest =>
    match c, rest with
    | '$', '\x7b' :: inside =>
      match reference? inside with
      | some (name, standIn, after) =>
        let value := match lookup (String.ofList name) with
          | some v => v.toList
          | none => standIn.getD []
        value ++ substitute lookup fuel after
      | none => c :: substitute lookup fuel rest
    | _, _ => c :: substitute lookup fuel rest

/-- The variables with all references replaced, those of the environment first. -/
def resolve (environment : Fields String) :
    Fields (Option String) → List (String × Option (List Char)) → Fields (Option String)
  | done, [] => done
  | done, (name, value) :: rest =>
    let lookup (n : String) : Option String :=
      match environment.get? n with
      | some v => some v
      | none => match done.get? n with
        | some v => some (v.getD "")
        | none => none
    let value := value.map fun cs => String.ofList (substitute lookup cs.length cs)
    resolve environment (Fields.insert name value done) rest

/-- The environment with the variables of a file added; those it has already are kept. -/
def load (text : String) (environment : Fields String) : Fields String :=
  (resolve environment [] (readVariables text)).foldl (fun env (name, value) =>
    match value, env.get? name with
    | some v, none => Fields.insert name v env
    | _, _ => env) environment

end Automation.EnvFile
