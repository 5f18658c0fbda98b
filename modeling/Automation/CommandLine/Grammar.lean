import Automation.Text.Digit
import Automation.Text.Quoted

/-!
Grammars of command lines. A word that begins with a dash names an option; any other word is the
argument of an option, a command, or the argument of a command. Options can be shortened as far as
they stay apart, and their arguments can follow an equals sign. Two dashes alone end the options.

What a line says is taken in from left to right, and the first thing that is wrong with it counts;
only a shortened option that could be several is found before anything else.
-/
namespace Automation.CommandLine

inductive Complaint where
  | notInteger (word : String)
  | notAmong (word : String) (words : List String)
  | absent
  | unexpected (word : String)
  deriving DecidableEq, Repr, Inhabited

def Complaint.text : Complaint → String
  | .notInteger word => s!"invalid int value: {Text.quoted word}"
  | .notAmong word words =>
    let list := ", ".intercalate (words.map Text.quoted)
    s!"invalid choice: {Text.quoted word} (choose from {list})"
  | .absent => "expected one argument"
  | .unexpected word => s!"ignored explicit argument {Text.quoted word}"

inductive Fault where
  | argument (name : String) (complaint : Complaint)
  | ambiguous (word : String) (names : List String)
  | missing (name : String)
  | unrecognized (words : List String)
  deriving DecidableEq, Repr, Inhabited

def Fault.text : Fault → String
  | .argument name complaint => s!"argument {name}: {complaint.text}"
  | .ambiguous word names =>
    let list := ", ".intercalate names
    s!"ambiguous option: {word} could match {list}"
  | .missing name => s!"the following arguments are required: {name}"
  | .unrecognized words =>
    let list := " ".intercalate words
    s!"unrecognized arguments: {list}"

inductive Action (α : Type) where
  | switch (set : α → α)
  /-- Takes an argument. -/
  | value (read : String → Except Complaint (α → α))

structure Rule (α : Type) where
  name : String
  action : Action α

inductive Grammar (α : Type) where
  /-- No options; at most one argument, with its title, which then has to be there. -/
  | argument (expected : Option (String × (String → α → α)))
  /-- Options, and one of some commands, each with a grammar of its own. -/
  | commands (rules : List (Rule α)) (title : String)
      (branches : List (String × (α → α) × Grammar α))

/-- Why a line yields no settings. -/
inductive Stop where
  /-- The user asks for help on a program. -/
  | help (usage : String)
  | wrong (program : String) (fault : Fault)
  deriving DecidableEq, Repr, Inhabited

def helpNames : List String := ["-h", "--help"]

def helpTitle : String := "/".intercalate helpNames

/-- What a word means where options are expected. `α` is what an option stands for. -/
inductive Mark (α : Type) where
  | plain
  /-- A question for help, and what stands behind it but should not. -/
  | help (excess : Option String)
  | option (rule : Rule α) (attached : Option String)
  | unknown
  | ambiguous (names : List String)

section Marks

variable {α : Type}

/-- The names of all options, in order; help has two names and no rule. -/
def namesOf (rules : List (Rule α)) : List (String × Option (Rule α)) :=
  helpNames.map (·, none) ++ rules.map fun r => (r.name, some r)

/-- What should not stand behind the letter that asks for help. Further letters may; from one on that
means nothing, all are passed over. -/
def letterExcess : List Char → Option String
  | [] => none
  | 'h' :: '=' :: rest => some (String.ofList rest)
  | c :: rest =>
    if c == '-' then some (String.ofList (c :: rest))
    else if c == 'h' then letterExcess rest
    else none

/-- The mark of a word that means an option, with an argument behind an equals sign or without. -/
def markOf (rule : Option (Rule α)) (attached : Option String) : Mark α :=
  match rule with
  | some rule => .option rule attached
  | none => .help attached

def cutArgument (word : String) : String × Option String :=
  match word.splitOn "=" with
  | name :: first :: more => (name, some ("=".intercalate (first :: more)))
  | _ => (word, none)

/-- What a word can be short for, with the names. A word with one dash is the letter that asks for help
with more letters behind it. -/
def candidates (rules : List (Rule α)) (word : String) : List (String × Mark α) :=
  if word.startsWith "--" then
    let (start, attached) := cutArgument word
    ((namesOf rules).filter fun (name, _) => name.startsWith start).map fun (name, rule) =>
      (name, markOf rule attached)
  else if word.startsWith "-h" then [("-h", .help (letterExcess (word.toList.drop 2)))]
  else []

/-- Whether a word is a negative number, perhaps with a line break after it. -/
def isNegative (word : String) : Bool :=
  match word.toList with
  | '-' :: rest =>
    let digits := if rest.getLast? == some '\n' then rest.dropLast else rest
    match digits.takeWhile Text.isDigit, digits.dropWhile Text.isDigit with
    | whole, [] => !whole.isEmpty
    | _, '.' :: decimals => !decimals.isEmpty && decimals.all Text.isDigit
    | _, _ => false
  | _ => false

/-- The mark of a word that is no option as it stands. -/
def markShortened (rules : List (Rule α)) (word : String) : Mark α :=
  match candidates rules word with
  | [(_, mark)] => mark
  | [] => if isNegative word || word.toList.contains ' ' then .plain else .unknown
  | several => .ambiguous (several.map Prod.fst)

/-- What a word means. A dash alone and a negative number are no options. -/
def mark (rules : List (Rule α)) (word : String) : Mark α :=
  if word.toList.head? != some '-' then .plain
  else match (namesOf rules).lookup word with
    | some rule => markOf rule none
    | none =>
      if word = "-" then .plain
      else
        let (name, attached) := cutArgument word
        match attached, (namesOf rules).lookup name with
        | some _, some rule => markOf rule attached
        | _, _ => markShortened rules word

/-- The first word before two dashes alone that could be several options. -/
def ambiguity? (rules : List (Rule α)) : List String → Option Fault
  | [] => none
  | word :: rest =>
    if word = "--" then none
    else match mark rules word with
      | .ambiguous names => some (.ambiguous word names)
      | _ => ambiguity? rules rest

end Marks

namespace Grammar

variable {α : Type}

def rules : Grammar α → List (Rule α)
  | .argument _ => []
  | .commands rules _ _ => rules

def usage (program : String) (g : Grammar α) : String :=
  let what := match g with
    | .argument none => ""
    | .argument (some (title, _)) => s!" {title}"
    | .commands rules _ branches =>
      let options := String.join (rules.map fun r => s!" [{r.name}]")
      let list := ",".intercalate (branches.map Prod.fst)
      options ++ " \x7b" ++ list ++ "\x7d"
  s!"usage: {program} [-h]" ++ what

def askHelp (program : String) (g : Grammar α) (excess : Option String) : Stop :=
  match excess with
  | none => .help (g.usage program)
  | some excess => .wrong program (.argument helpTitle (.unexpected excess))

/-- Takes in the words of a command without commands of its own. Yields the settings and the words that
nothing was made of. -/
def readArgument (program : String) :
    Option (String × (String → α → α)) → α → List String → List String →
      Except Stop (α × List String)
  | none, value, extras, [] => .ok (value, extras)
  | some (title, _), _, _, [] => .error (.wrong program (.missing title))
  | expected, value, extras, word :: rest =>
    if word = "--" then
      match expected, rest with
      | some (_, set), next :: more => .ok (set next value, extras ++ more)
      | some (title, _), [] => .error (.wrong program (.missing title))
      | none, _ => .ok (value, extras ++ word :: rest)
    else match mark ([] : List (Rule α)) word, expected with
      | .plain, some (_, set) =>
        match rest with
        | "--" :: more => .ok (set word value, extras ++ more)
        | _ => readArgument program none (set word value) extras rest
      | .help excess, _ => .error (askHelp program (.argument expected) excess)
      | _, _ => readArgument program expected value (extras ++ [word]) rest

/-- The effect of an option, and whether the word behind it is its argument. -/
def readOption (program : String) (rules : List (Rule α)) (rule : Rule α) (attached : Option String)
    (rest : List String) : Except Stop ((α → α) × Bool) :=
  let wrong (complaint : Complaint) : Except Stop ((α → α) × Bool) :=
    .error (.wrong program (.argument rule.name complaint))
  let take (read : String → Except Complaint (α → α)) (word : String) (next : Bool) :
      Except Stop ((α → α) × Bool) :=
    match read word with
    | .ok set => .ok (set, next)
    | .error complaint => wrong complaint
  match rule.action, attached, rest with
  | .switch set, none, _ => .ok (set, false)
  | .switch _, some text, _ => wrong (.unexpected text)
  | .value read, some text, _ => take read text false
  | .value _, none, [] => wrong .absent
  | .value read, none, next :: _ =>
    match mark rules next with
    | .plain => if next = "--" then wrong .absent else take read next true
    | _ => wrong .absent

/-- Takes in words by a grammar. Yields the settings and the words that nothing was made of. -/
def readWords : Grammar α → String → α → List String → List String → Except Stop (α × List String)
  | .argument expected, program, value, extras, words =>
    readArgument program expected value extras words
  | .commands _ _ _, _, value, extras, [] => .ok (value, extras)
  | .commands rules title branches, program, value, extras, word :: rest =>
    let unknown : Stop := .wrong program (.argument title (.notAmong word (branches.map Prod.fst)))
    if word = "--" then if rest.isEmpty then .ok (value, extras ++ [word]) else .error unknown
    else match mark rules word with
      | .plain =>
        match branches.lookup word with
        | none => .error unknown
        | some (set, g) =>
          let program := program ++ " " ++ word
          match ambiguity? g.rules rest with
          | some fault => .error (.wrong program fault)
          | none => readWords g program (set value) extras rest
      | .help excess => .error (askHelp program (.commands rules title branches) excess)
      | .option rule attached =>
        match readOption program rules rule attached rest with
        | .error stop => .error stop
        | .ok (set, false) =>
          readWords (.commands rules title branches) program (set value) extras rest
        | .ok (set, true) =>
          match rest with
          | _ :: more => readWords (.commands rules title branches) program (set value) extras more
          | [] => .ok (set value, extras)
      | _ => readWords (.commands rules title branches) program value (extras ++ [word]) rest

def read (g : Grammar α) (program : String) (start : α) (words : List String) : Except Stop α :=
  match ambiguity? g.rules words with
  | some fault => .error (.wrong program fault)
  | none =>
    match g.readWords program start [] words with
    | .error stop => .error stop
    | .ok (value, []) => .ok value
    | .ok (_, extras) => .error (.wrong program (.unrecognized extras))

end Grammar
end Automation.CommandLine
