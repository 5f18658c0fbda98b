import Automation.Stack
import Automation.Text.Digit
import Automation.Value.Text

/-!
Templates: text with directives that are replaced by arguments. A directive begins with a percent sign;
a name in parentheses, flags, a width and a precision may follow, and a letter ends it. Two percent
signs stand for one. Arguments are given in order or by name. A template that does not fit its arguments yields nothing.
-/
namespace Automation.Text.Template

open Automation.Number

inductive Size where
  | fixed (n : Nat)
  | taken
  deriving DecidableEq, Repr

structure Directive where
  name : Option String := none
  left : Bool := false
  plus : Bool := false
  space : Bool := false
  zero : Bool := false
  alternate : Bool := false
  width : Option Size := none
  precision : Option Size := none
  letter : Char
  deriving DecidableEq, Repr

inductive Part where
  | char (c : Char)
  | directive (d : Directive)
  deriving DecidableEq, Repr

/-! ### Reading templates -/

/-- A name up to its closing parenthesis; `depth` counts those that are open inside it. -/
def takeName (depth : Nat) : List Char → Option (List Char × List Char)
  | [] => none
  | c :: rest =>
    if c == ')' then
      match depth with
      | 0 => some ([], rest)
      | depth + 1 => (takeName depth rest).map fun (name, after) => (c :: name, after)
    else
      (takeName (if c == '(' then depth + 1 else depth) rest).map fun (name, after) =>
        (c :: name, after)

def isFlag (c : Char) : Bool := c == '-' || c == '+' || c == ' ' || c == '#' || c == '0'

/-- A number in ASCII digits, or a star; nothing where there is neither. -/
def takeSize (cs : List Char) : Option Size × List Char :=
  match cs with
  | '*' :: rest => (some .taken, rest)
  | _ =>
    let ds := cs.takeWhile isAsciiDigit
    if ds.isEmpty then (none, cs)
    else (some (.fixed (valueFrom 0 (ds.map fun d => d.toNat - '0'.toNat))), cs.dropWhile isAsciiDigit)

/-- A directive after its percent sign, and the rest of the template. -/
def takeDirective (cs : List Char) : Option (Directive × List Char) := do
  let (name, cs) ← match cs with
    | '(' :: rest => (takeName 0 rest).map fun (n, after) => (some (String.ofList n), after)
    | _ => some (none, cs)
  let flags := cs.takeWhile isFlag
  let (width, cs) := takeSize (cs.dropWhile isFlag)
  let (precision, cs) := match cs with
    | '.' :: rest =>
      let (size, after) := takeSize rest
      (some (size.getD (.fixed 0)), after)
    | _ => (none, cs)
  let cs := match cs with
    | c :: rest => if c == 'h' || c == 'l' || c == 'L' then rest else cs
    | [] => cs
  match cs with
  | letter :: rest =>
    some (
      { name, width, precision, letter
        left := flags.contains '-'
        plus := flags.contains '+'
        space := flags.contains ' '
        zero := flags.contains '0'
        alternate := flags.contains '#' }, rest)
  | [] => none

/-- The parts of a template. Each part takes a character at least, so the length bounds their number. -/
def readParts : Nat → List Char → Option (List Part)
  | _, [] => some []
  | 0, _ => some []
  | fuel + 1, c :: rest =>
    if c == '%' then
      match rest with
      | '%' :: after => (readParts fuel after).map (.char '%' :: ·)
      | _ =>
        match takeDirective rest with
        | some (d, after) => (readParts fuel after).map (.directive d :: ·)
        | none => none
    else (readParts fuel rest).map (.char c :: ·)

def parts? (template : String) : Option (List Part) :=
  readParts template.length template.toList

/-! ### Arguments -/

/-- What a template is filled with. Arguments by name can stand once for the whole mapping. -/
inductive Arguments where
  | ordered (rest : List Value)
  | named (fields : Fields Value) (whole : Bool)

def Arguments.next? : Arguments → Option (Value × Arguments)
  | .ordered (v :: rest) => some (v, .ordered rest)
  | .ordered [] => none
  | .named fields true => some (.dict fields, .named fields false)
  | .named _ false => none

def Arguments.take? (args : Arguments) (name : Option String) : Option (Value × Arguments) :=
  match name, args with
  | none, args => args.next?
  | some key, .named fields _ => (fields.get? key).map fun v => (v, .named fields false)
  | some _, .ordered _ => none

def Arguments.isUsed : Arguments → Bool
  | .ordered rest => rest.isEmpty
  | .named _ _ => true

/-! ### Writing values -/

/-- Fills a text up to a width, on the side that the flags say. -/
def pad (d : Directive) (width : Nat) (cs : List Char) : List Char :=
  let filler := List.replicate (width - cs.length) ' '
  if d.left then cs ++ filler else filler ++ cs

/-- A number with its sign and mark, filled up to a width. -/
def padNumber (d : Directive) (width : Nat) (negative : Bool) (mark body : List Char) : List Char :=
  let sign := if negative then ['-'] else if d.plus then ['+'] else if d.space then [' '] else []
  if d.zero && !d.left then
    sign ++ mark ++ padLeft (width - sign.length - mark.length) body
  else pad d width (sign ++ mark ++ body)

/-- The integer that a value is or is cut off to. -/
def wholeNumber? : Value → Option Int
  | .int n => some n
  | .bool b => some (if b then 1 else 0)
  | .float (.number negative rank) =>
    if rank < Double.infinityRank then
      let (n, d) := Double.ratio rank
      some (if negative then -((n / d : Nat) : Int) else (n / d : Nat))
    else none
  | _ => none

def integer? : Value → Option Int
  | .int n => some n
  | .bool b => some (if b then 1 else 0)
  | _ => none

def double? : Value → Option Double
  | .float x => some x
  | .int n => Double.ofInt? n
  | .bool b => Double.ofInt? (if b then 1 else 0)
  | _ => none

def digitsInBase (base n : Nat) : List Char :=
  if _small : n < base ∨ base < 2 then [hexDigit n]
  else digitsInBase base (n / base) ++ [hexDigit (n % base)]
termination_by n
decreasing_by
  rw [not_or] at _small
  exact Nat.div_lt_self (by omega) (by omega)

/-- An integer in a base, with at least as many digits as the precision says. -/
def integerChars (d : Directive) (width : Nat) (precision : Option Nat) (base : Nat)
    (mark : List Char) (n : Int) : List Char :=
  let body := padLeft (precision.getD 0) (digitsInBase base n.natAbs)
  padNumber d width (n < 0) (if d.alternate then mark else []) body

/-- A quotient with a fixed number of decimal places, as the digits before and after the point. -/
def fixedPlaces (n d places : Nat) : List Char × List Char :=
  let all := padLeft (places + 1) (digits (Double.roundHalfEven (n * Nat.pow 10 places) d))
  (all.take (all.length - places), all.drop (all.length - places))

/-- The greatest power of ten that is at most `n / d`. -/
def floorLog10 (n d : Nat) : Int :=
  ((digits (n * Nat.pow 10 400 / d)).length : Int) - 401

/-- A positive quotient rounded to `places + 1` digits, and the power of ten of the first one. -/
def significant (n d places : Nat) : List Char × Int :=
  let power := floorLog10 n d
  let shift : Int := places - power
  let rounded := digits
    (Double.roundHalfEven (n * Nat.pow 10 shift.toNat) (d * Nat.pow 10 (-shift).toNat))
  if places + 1 < rounded.length then (rounded.take (places + 1), power + 1) else (rounded, power)

/-- Digits and power, zero having the digits of zero. -/
def significantOrZero (n d places : Nat) : List Char × Int :=
  if n = 0 then (List.replicate (places + 1) '0', 0) else significant n d places

/-- A point between digits, left out where no digit follows unless it is asked for. -/
def joinPoint (alternate : Bool) (whole fraction : List Char) : List Char :=
  whole ++ (if fraction.isEmpty && !alternate then [] else '.' :: fraction)

def powerChars (power : Int) : List Char :=
  'e' :: (if power < 0 then '-' else '+') :: padLeft 2 (digits power.natAbs)

def dropZeros (ds : List Char) : List Char := (ds.reverse.dropWhile (· == '0')).reverse

/-- A finite double by a letter: `f` with fixed places, `e` with a power of ten, `g` whichever is
shorter without the zeros at the end. -/
def finiteChars (alternate : Bool) (letter : Char) (places : Nat) (rank : Nat) : List Char :=
  let (n, d) := Double.ratio rank
  if letter == 'f' then
    let (whole, fraction) := fixedPlaces n d places
    joinPoint alternate whole fraction
  else if letter == 'e' then
    let (ds, power) := significantOrZero n d places
    joinPoint alternate (ds.take 1) (ds.drop 1) ++ powerChars power
  else
    let count := max 1 places
    let (ds, power) := significantOrZero n d (count - 1)
    let trim (ds : List Char) : List Char := if alternate then ds else dropZeros ds
    if -4 ≤ power && power < count then
      if power < 0 then
        joinPoint alternate ['0'] (trim (List.replicate (-power - 1).toNat '0' ++ ds))
      else
        joinPoint alternate (ds.take (power.toNat + 1)) (trim (ds.drop (power.toNat + 1)))
    else joinPoint alternate (ds.take 1) (trim (ds.drop 1)) ++ powerChars power

/-- A double by a letter, in capitals where the letter is one. -/
def doubleChars (d : Directive) (width : Nat) (precision : Option Nat) (x : Double) : List Char :=
  let raise (cs : List Char) : List Char := if d.letter.isUpper then cs.map Char.toUpper else cs
  match x with
  | .nan => padNumber d width false [] (raise "nan".toList)
  | .number negative rank =>
    let body :=
      if Double.infinityRank ≤ rank then "inf".toList
      else finiteChars d.alternate d.letter.toLower (precision.getD 6) rank
    padNumber d width negative [] (raise body)

/-- Text in ASCII, other characters as escapes. -/
def asciiOnly (cs : List Char) : List Char :=
  cs.flatMap fun c => if c.toNat < 128 then [c] else Quoted.escape c

/-- Text cut to the precision and filled up to the width. -/
def textChars (d : Directive) (width : Nat) (precision : Option Nat) (cs : List Char) : List Char :=
  pad d width (match precision with
    | some n => cs.take n
    | none => cs)

/-- The text of a value under a directive. -/
def valueChars (d : Directive) (width : Nat) (precision : Option Nat) (v : Value) :
    Option (List Char) :=
  if !v.fits Stack.shown then none
  else match d.letter with
  | 's' => some (textChars d width precision v.text.toList)
  | 'r' => some (textChars d width precision v.quotedText.toList)
  | 'a' => some (textChars d width precision (asciiOnly v.quotedText.toList))
  | 'd' | 'i' | 'u' => (wholeNumber? v).map (integerChars d width precision 10 [])
  | 'x' => (integer? v).map (integerChars d width precision 16 ['0', 'x'])
  | 'X' => (integer? v).map fun n =>
    (integerChars d width precision 16 ['0', 'x'] n).map Char.toUpper
  | 'o' => (integer? v).map (integerChars d width precision 8 ['0', 'o'])
  | 'c' =>
    match v with
    | .str s => if s.length = 1 then some (pad d width s.toList) else none
    | v => (integer? v).bind fun n =>
      if 0 ≤ n && n < 0x110000 then some (pad d width [Char.ofNat n.toNat]) else none
  | 'e' | 'E' | 'f' | 'F' | 'g' | 'G' => (double? v).map (doubleChars d width precision)
  | _ => none

/-- The sizes that can be asked for lie below this one. -/
def sizeLimit : Nat := 2147483648

/-- A size that is not too large. -/
def bounded? (n : Int) (args : Arguments) : Option (Option Int × Arguments) :=
  if n.natAbs < sizeLimit then some (some n, args) else none

/-- A size, and the arguments after it is taken. -/
def size? (args : Arguments) : Option Size → Option (Option Int × Arguments)
  | none => some (none, args)
  | some (.fixed n) => bounded? n args
  | some .taken =>
    match args.next? with
    | some (.int n, rest) => bounded? n rest
    | some (.bool b, rest) => bounded? (if b then 1 else 0) rest
    | _ => none

/-- The text of a directive, and the arguments that are left. A width below zero fills on the right. -/
def directiveChars (args : Arguments) (d : Directive) : Option (List Char × Arguments) := do
  let named := d.name.bind fun key => args.take? (some key)
  if d.name.isSome && named.isNone then none
  else
    let (width, args) ← size? args d.width
    let (precision, args) ← size? args d.precision
    let (v, args) ← match named with
      | some (v, args) => some (v, args)
      | none => args.next?
    let d := match width with
      | some w => { d with left := d.left || w < 0 }
      | none => d
    let cs ← valueChars d (width.getD 0).natAbs (precision.map Int.toNat) v
    some (cs, args)

/-- Fills the parts of a template one after the other. -/
def fillParts : Arguments → List Part → Option (List Char)
  | args, [] => if args.isUsed then some [] else none
  | args, .char c :: rest => (fillParts args rest).map (c :: ·)
  | args, .directive d :: rest =>
    match directiveChars args d with
    | some (cs, args) => (fillParts args rest).map (cs ++ ·)
    | none => none

/-- Fills a template. -/
def fill? (template : String) (args : Arguments) : Option String :=
  ((parts? template).bind (fillParts args)).map String.ofList

/-- A message and its arguments. Without arguments the message stands as it is; a single mapping gives
them by name. -/
def message? (template : String) (args : List Value) : Option String :=
  match args with
  | [] => some template
  | [.dict fields] =>
    if fields.isEmpty then fill? template (.ordered args)
    else fill? template (.named fields true)
  | _ => fill? template (.ordered args)

end Automation.Text.Template
