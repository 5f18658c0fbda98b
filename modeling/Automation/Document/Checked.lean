import Automation.Document.Problem
import Automation.Number.Numeral

/-!
Checks of data against the type of a field. A check yields a value or all problems that it finds;
checks of several fields are combined so that the problems of all of them are kept, in order.
-/
namespace Automation.Document

open Automation.Number Automation.Text

inductive Checked (α : Type) where
  | good (value : α)
  | bad (problems : List Problem)

namespace Checked

variable {α β : Type}

def problem (cause : Cause) (found : Value) : Checked α := .bad [⟨[], cause, found⟩]

protected def map (f : α → β) : Checked α → Checked β
  | .good a => .good (f a)
  | .bad ps => .bad ps

protected def ap (f : Checked (α → β)) (a : Checked α) : Checked β :=
  match f, a with
  | .good f, .good a => .good (f a)
  | .good _, .bad ps => .bad ps
  | .bad ps, .good _ => .bad ps
  | .bad ps, .bad qs => .bad (ps ++ qs)

instance : Applicative Checked where
  pure := .good
  seq f a := Checked.ap f (a ())

def andThen (a : Checked α) (f : α → Checked β) : Checked β :=
  match a with
  | .good a => f a
  | .bad ps => .bad ps

/-- The same result seen from one level further up. -/
def under (step : Step) : Checked α → Checked α
  | .good a => .good a
  | .bad ps => .bad (ps.map (·.under step))

def toExcept : Checked α → Except (List Problem) α
  | .good a => .ok a
  | .bad ps => .error ps

end Checked

abbrev Check (α : Type) := Value → Checked α

namespace Check

variable {α : Type}

def any : Check Value := .good

def text : Check String
  | .str s => .good s
  | v => .problem .notText v

def mapping : Check (Fields Value)
  | .dict fields => .good fields
  | v => .problem .notMapping v

/-- The items of a list from an index on. -/
def itemsFrom (check : Check α) : Nat → List Value → Checked (List α)
  | _, [] => .good []
  | i, v :: rest =>
    ((check v).under (.item i)).map List.cons |>.ap (itemsFrom check (i + 1) rest)

def list (check : Check α) : Check (List α)
  | .list items => itemsFrom check 0 items
  | v => .problem .notList v

def nullable (check : Check α) : Check (Option α)
  | .null => .good none
  | v => (check v).map some

def oneOf (members : List α) (word : α → String) : Check α := fun v =>
  let wrong := Checked.problem (.notOneOf (members.map word)) v
  match v with
  | .str s =>
    match members.find? (word · == s) with
    | some a => .good a
    | none => wrong
  | _ => wrong

/-- Digits in which single underscores may stand, and a fraction of zeros. -/
def wholeDigits? (cs : List Char) : Option (List Nat) := do
  let whole := cs.takeWhile (· != '.')
  let zeros := (cs.dropWhile (· != '.')).drop 1
  let ds ← dropUnderscores false whole
  if ds.isEmpty || !ds.all isAsciiDigit || !zeros.all (· == '0') then none
  else some (takeDigits ds).1

/-- A text that is an integer: blanks around it and a sign are allowed. -/
def integerOfText? (s : String) : Option Int :=
  let (negative, body) := takeSign (strip isSpace s.toList)
  (wholeDigits? body).map fun ds => signed negative (valueFrom 0 ds)

/-- The integers that a double can stand for lie strictly between this one and its negative. -/
def doubleLimit : Int := 9223372036854775808

/-- The integer that a double stands for; nothing for one with a fraction. -/
def wholeOf (x : Double) : Checked (Option Int) :=
  if !x.isFinite then .problem .notFinite (.float x)
  else match x.toInt? with
    | some n =>
      if -doubleLimit < n && n < doubleLimit then .good (some n)
      else .problem .oversizedInteger (.float x)
    | none => .good none

/-- Whole numbers of any kind, and texts that denote them. -/
def integer : Check Int
  | .int n => .good n
  | .bool b => .good (if b then 1 else 0)
  | .float x => (wholeOf x).andThen fun n =>
    match n with
    | some n => .good n
    | none => .problem .fractional (.float x)
  | .str s =>
    if maxDigits < s.length then .problem .oversizedInteger (.str s)
    else match integerOfText? s with
      | some n => .good n
      | none => .problem .unreadableInteger (.str s)
  | v => .problem .notInteger v

/-- A numeral in ASCII, or a name of a value without digits. -/
def asciiDouble? (cs : List Char) : Option Double :=
  if !cs.all (·.toNat < 128) then none
  else
    let (negative, body) := takeSign cs
    match namedRank? (String.ofList (body.map Char.toLower)) with
    | some (some rank) => some (.number negative rank)
    | some none => some .nan
    | none => (Numeral.read? cs).map Numeral.toDouble

def hasDoubleUnderscore : List Char → Bool
  | '_' :: '_' :: _ => true
  | _ :: rest => hasDoubleUnderscore rest
  | [] => false

/-- A text without its underscores, which must stand inside it and apart from each other. -/
def withoutUnderscores? (cs : List Char) : Option (List Char) :=
  if cs.head? == some '_' || cs.getLast? == some '_' || hasDoubleUnderscore cs then none
  else some (cs.filter (· != '_'))

/-- A text that is a number: with blanks around it, or with underscores inside. -/
def doubleOfText? (s : String) : Option Double :=
  match asciiDouble? (strip isSpace s.toList) with
  | some x => some x
  | none => (withoutUnderscores? s.toList).bind asciiDouble?

def number : Check Double
  | .float x => .good x
  | .int n =>
    match Double.ofInt? n with
    | some x => .good x
    | none => .problem .notNumber (.int n)
  | .bool b => .good (if b then .number false (1023 * Double.binade) else .zero)
  | .str s =>
    match doubleOfText? s with
    | some x => .good x
    | none => .problem .unreadableNumber (.str s)
  | v => .problem .notNumber v

def truthWords : List (String × Bool) :=
  [("0", false), ("off", false), ("f", false), ("false", false), ("n", false), ("no", false),
    ("1", true), ("on", true), ("t", true), ("true", true), ("y", true), ("yes", true)]

def truth : Check Bool
  | .bool b => .good b
  | .int n =>
    if n = 0 then .good false else if n = 1 then .good true else .problem .unreadableTruth (.int n)
  | .float x =>
    match wholeOf x with
    | .good (some n) =>
      if n = 0 then .good false else if n = 1 then .good true
      else .problem .unreadableTruth (.float x)
    | _ => .problem .notTruth (.float x)
  | .str s =>
    match truthWords.lookup (String.ofList (s.toList.map Char.toLower)) with
    | some b => .good b
    | none => .problem .unreadableTruth (.str s)
  | v => .problem .notTruth v

/-- A point in time, as text or as the seconds since the start of 1970. -/
def time : Check Instant
  | .str s =>
    match Instant.read s with
    | .ok t => .good t
    | .error e => .problem (.unreadableTime e) (.str s)
  | .int n =>
    match Instant.ofSeconds n 0 with
    | .ok t => .good t
    | .error e => .problem (.impossibleTime e) (.int n)
  | .float x =>
    match Instant.ofDouble x with
    | .ok t => .good t
    | .error e => .problem (.impossibleTime e) (.float x)
  | v => .problem .notTime v

end Check

def required {α : Type} (fields : Fields Value) (name : String) (check : Check α) : Checked α :=
  (match fields.get? name with
  | some v => check v
  | none => .problem .missing (.dict fields)).under (.field name)

def optional {α : Type} (fields : Fields Value) (name : String) (default : α) (check : Check α) :
    Checked α :=
  (match fields.get? name with
  | some v => check v
  | none => .good default).under (.field name)

def ruleFor {α : Type} (found : Value) (holds : Bool) (message : String) (value : α) : Checked α :=
  if holds then .good value else .problem (.rule message) found

end Automation.Document
