import Automation.Number.Digits
import Automation.Number.Double
import Automation.Text.Blank
import Automation.Text.Digit

/-!
Numerals as people write them: an optional sign, digits with an optional point, and an optional
power of ten. The digits may come from any script. A numeral denotes the double nearest to it.
-/
namespace Automation.Number

open Automation.Text

structure Numeral where
  negative : Bool
  whole : List Nat
  fraction : List Nat
  exponent : Int
  deriving DecidableEq, Repr

/-- The values of the leading digits, and the rest of the text. -/
def takeDigits : List Char → List Nat × List Char
  | [] => ([], [])
  | c :: rest =>
    match digitValue? c with
    | some d =>
      let (ds, left) := takeDigits rest
      (d :: ds, left)
    | none => ([], c :: rest)

def takeSign : List Char → Bool × List Char
  | '-' :: rest => (true, rest)
  | '+' :: rest => (false, rest)
  | cs => (false, cs)

/-- The power of ten that ends a numeral: nothing, or `e`, an optional sign and digits. -/
def exponent? : List Char → Option Int
  | [] => some 0
  | c :: rest =>
    if c == 'e' || c == 'E' then
      let (negative, cs) := takeSign rest
      match takeDigits cs with
      | (d :: ds, []) =>
        let n : Int := valueFrom 0 (d :: ds)
        some (if negative then -n else n)
      | _ => none
    else none

def takeFraction : List Char → List Nat × List Char
  | '.' :: rest => takeDigits rest
  | cs => ([], cs)

/-- Reads a whole text as a numeral. There must be a digit on one side of the point. -/
def Numeral.read? (cs : List Char) : Option Numeral :=
  let (negative, body) := takeSign cs
  let (whole, afterWhole) := takeDigits body
  let (fraction, afterFraction) := takeFraction afterWhole
  if whole.isEmpty && fraction.isEmpty then none
  else (exponent? afterFraction).map fun e => ⟨negative, whole, fraction, e⟩

def Numeral.toDouble (n : Numeral) : Double :=
  let all := n.whole ++ n.fraction
  .number n.negative
    (Double.rankOfDecimal (valueFrom 0 all) all.length (n.exponent - n.fraction.length))

/-- Whether a text, blanks at its ends aside, is a numeral. -/
def isNumeric (s : String) : Bool := (Numeral.read? (strip isBlank s.toList)).isSome

/-- Takes out the underscores, each of which must stand between two digits. `afterDigit` says whether
a digit stands before the text. -/
def dropUnderscores (afterDigit : Bool) : List Char → Option (List Char)
  | [] => some []
  | '_' :: rest =>
    match rest with
    | next :: _ => if afterDigit && isDigit next then dropUnderscores false rest else none
    | [] => none
  | c :: rest => (dropUnderscores (isDigit c) rest).map (c :: ·)

/-- The names of the values that have no digits, without a sign and in lower case. -/
def namedRank? (name : String) : Option (Option Nat) :=
  if name == "inf" || name == "infinity" then some (some Double.infinityRank)
  else if name == "nan" then some none
  else none

/-- Reads a text as a double: white space around it, underscores between digits and the names of
infinity and of no number are allowed. -/
def readDouble? (s : String) : Option Double := do
  let cs ← dropUnderscores false (strip isSpace s.toList)
  let (negative, body) := takeSign cs
  match namedRank? (String.ofList (body.map Char.toLower)) with
  | some (some rank) => some (.number negative rank)
  | some none => some .nan
  | none => (Numeral.read? cs).map Numeral.toDouble

/-- The sign and the digits of a text that is an integer: white space around it and underscores
between digits are allowed. -/
def readIntegerDigits? (s : String) : Option (Bool × List Nat) := do
  let cs ← dropUnderscores false (strip isSpace s.toList)
  let (negative, body) := takeSign cs
  match takeDigits body with
  | (d :: ds, []) => some (negative, d :: ds)
  | _ => none

def signed (negative : Bool) (n : Nat) : Int := if negative then -(n : Int) else n

def readInteger? (s : String) : Option Int :=
  (readIntegerDigits? s).map fun (negative, ds) => signed negative (valueFrom 0 ds)

end Automation.Number
