import Automation.Number.Numeral
import Automation.Value.Basic

/-!
Reading JSON. Beyond the standard, the names `NaN`, `Infinity` and `-Infinity` are numbers; of a key
that is given twice, the last value is kept at the first place; and a document may be nested only so
deep. A refusal says where in the text the trouble is.
-/
namespace Automation.Json

open Automation.Number

inductive Nesting where
  | array
  | object
  deriving DecidableEq, Repr

inductive ReadError where
  /-- The text is no JSON; the trouble is at an offset, in characters. -/
  | malformed (offset : Nat)
  /-- An integer has more digits than may be read. -/
  | tooManyDigits (count : Nat)
  /-- Data nested deeper than allowed. -/
  | tooDeep (opening : Nesting)
  deriving DecidableEq, Repr

def isBlank (c : Char) : Bool := c == ' ' || c == '\t' || c == '\n' || c == '\r'

/-- What is left of a text, with the number of characters already read. -/
structure Rest where
  chars : List Char
  offset : Nat

namespace Rest

def skipBlanks (r : Rest) : Rest :=
  let blanks := r.chars.takeWhile isBlank
  ⟨r.chars.drop blanks.length, r.offset + blanks.length⟩

def skip (r : Rest) (n : Nat) : Rest := ⟨r.chars.drop n, r.offset + n⟩

end Rest

def hexValue? (c : Char) : Option Nat :=
  if '0' ≤ c && c ≤ '9' then some (c.toNat - '0'.toNat)
  else if 'a' ≤ c && c ≤ 'f' then some (c.toNat - 'a'.toNat + 10)
  else if 'A' ≤ c && c ≤ 'F' then some (c.toNat - 'A'.toNat + 10)
  else none

def unit? : List Char → Option Nat
  | [a, b, c, d] => do
    some (((← hexValue? a) * 16 + (← hexValue? b)) * 256 + (← hexValue? c) * 16 + (← hexValue? d))
  | _ => none

def isHighHalf (n : Nat) : Bool := 0xD800 ≤ n && n ≤ 0xDBFF

def isLowHalf (n : Nat) : Bool := 0xDC00 ≤ n && n ≤ 0xDFFF

/-- The character of a unit. A half without its partner has none: the replacement character stands
for it. -/
def unitChar (n : Nat) : Char :=
  if isHighHalf n || isLowHalf n then Char.ofNat 0xFFFD else Char.ofNat n

def joinHalves (high low : Nat) : Char :=
  Char.ofNat (0x10000 + (high - 0xD800) * 0x400 + (low - 0xDC00))

/-- The character that a letter after the escape mark stands for. -/
def shortEscape? (c : Char) : Option Char :=
  match c with
  | '"' => some '"'
  | '\\' => some '\\'
  | '/' => some '/'
  | 'b' => some (Char.ofNat 8)
  | 'f' => some (Char.ofNat 12)
  | 'n' => some '\n'
  | 'r' => some '\r'
  | 't' => some '\t'
  | _ => none

/-- The second half after a high one, if it is there: an escape of a low half that is not the end of
the text. A wrong digit in it is an error at its letter. -/
inductive SecondHalf where
  | absent
  | low (n : Nat)
  | wrong

def secondHalf : List Char → SecondHalf
  | '\\' :: 'u' :: a :: b :: c :: d :: _ :: _ =>
    match unit? [a, b, c, d] with
    | some n => if isLowHalf n then .low n else .absent
    | none => .wrong
  | _ => .absent

/-- The rest of a text in quotes, whose opening quote is at `start`; `done` holds its characters read
so far, last first. Each round consumes a character, so the number of characters bounds the rounds. -/
def readString (start : Nat) : Nat → List Char → Rest → Except ReadError (String × Rest)
  | 0, _, _ => .error (.malformed start)
  | fuel + 1, done, r =>
    match r.chars with
    | [] => .error (.malformed start)
    | '"' :: rest => .ok (String.ofList done.reverse, ⟨rest, r.offset + 1⟩)
    | '\\' :: rest =>
      match rest with
      | [] => .error (.malformed start)
      | 'u' :: digits =>
        match digits with
        | a :: b :: c :: d :: e :: after =>
          match unit? [a, b, c, d] with
          | none => .error (.malformed (r.offset + 1))
          | some n =>
            if isHighHalf n then
              match secondHalf (e :: after) with
              | .low m => readString start fuel (joinHalves n m :: done) (r.skip 12)
              | .wrong => .error (.malformed (r.offset + 7))
              | .absent => readString start fuel (unitChar n :: done) (r.skip 6)
            else readString start fuel (unitChar n :: done) (r.skip 6)
        | _ => .error (.malformed (r.offset + 1))
      | c :: after =>
        match shortEscape? c with
        | some d => readString start fuel (d :: done) ⟨after, r.offset + 2⟩
        | none => .error (.malformed r.offset)
    | c :: rest =>
      if c.toNat < 0x20 then .error (.malformed r.offset)
      else readString start fuel (c :: done) ⟨rest, r.offset + 1⟩

def string (r : Rest) : Except ReadError (String × Rest) :=
  readString (r.offset - 1) (r.chars.length + 1) [] r

def takeAsciiDigits : List Char → List Nat × List Char
  | [] => ([], [])
  | c :: rest =>
    if Text.isAsciiDigit c then
      let (ds, left) := takeAsciiDigits rest
      ((c.toNat - '0'.toNat) :: ds, left)
    else ([], c :: rest)

/-- The digits before the point: a single zero, or digits that do not begin with one. -/
def takeWhole : List Char → List Nat × List Char
  | '0' :: rest => ([0], rest)
  | cs => takeAsciiDigits cs

/-- A point with digits after it; a point without digits is left alone. -/
def takePoint (cs : List Char) : Option (List Nat) × List Char :=
  match cs with
  | '.' :: rest =>
    match takeAsciiDigits rest with
    | ([], _) => (none, cs)
    | (ds, left) => (some ds, left)
  | _ => (none, cs)

/-- A power of ten; one without digits is left alone. -/
def takePower (cs : List Char) : Option Int × List Char :=
  match cs with
  | c :: rest =>
    if c == 'e' || c == 'E' then
      let (negative, body) := takeSign rest
      match takeAsciiDigits body with
      | ([], _) => (none, cs)
      | (ds, left) => (some (signed negative (valueFrom 0 ds)), left)
    else (none, cs)
  | [] => (none, cs)

/-- A number. Without a point and a power of ten it is an integer. -/
def number (r : Rest) : Except ReadError (Value × Rest) :=
  let (negative, body) := match r.chars with
    | '-' :: rest => (true, rest)
    | cs => (false, cs)
  match takeWhole body with
  | ([], _) => .error (.malformed r.offset)
  | (whole, afterWhole) =>
    let (fraction, afterFraction) := takePoint afterWhole
    let (power, left) := takePower afterFraction
    let rest : Rest := ⟨left, r.offset + (r.chars.length - left.length)⟩
    match fraction, power with
    | none, none =>
      if maxDigits < whole.length then .error (.tooManyDigits whole.length)
      else .ok (.int (signed negative (valueFrom 0 whole)), rest)
    | _, _ =>
      let numeral : Numeral := ⟨negative, whole, fraction.getD [], power.getD 0⟩
      .ok (.float numeral.toDouble, rest)

def startsWith (r : Rest) (word : List Char) : Bool := word.isPrefixOf r.chars

def scalar (r : Rest) : Except ReadError (Value × Rest) :=
  if startsWith r "null".toList then .ok (.null, r.skip 4)
  else if startsWith r "true".toList then .ok (.bool true, r.skip 4)
  else if startsWith r "false".toList then .ok (.bool false, r.skip 5)
  else if startsWith r "NaN".toList then .ok (.float .nan, r.skip 3)
  else if startsWith r "Infinity".toList then .ok (.float .infinity, r.skip 8)
  else if startsWith r "-Infinity".toList then .ok (.float Double.infinity.neg, r.skip 9)
  else number r

mutual

/-- One value. `depth` levels may still be opened, and `fuel` bounds the number of calls. -/
def value (fuel depth : Nat) (r : Rest) : Except ReadError (Value × Rest) :=
  match fuel with
  | 0 => .error (.malformed r.offset)
  | fuel + 1 =>
    match r.chars with
    | '"' :: rest => do
      let (s, r) ← string ⟨rest, r.offset + 1⟩
      .ok (.str s, r)
    | '[' :: rest =>
      match depth with
      | 0 => .error (.tooDeep .array)
      | depth + 1 =>
        let r := (Rest.mk rest (r.offset + 1)).skipBlanks
        match r.chars with
        | ']' :: rest => .ok (.list [], ⟨rest, r.offset + 1⟩)
        | _ => items fuel depth [] r
    | '{' :: rest =>
      match depth with
      | 0 => .error (.tooDeep .object)
      | depth + 1 =>
        let r := (Rest.mk rest (r.offset + 1)).skipBlanks
        match r.chars with
        | '}' :: rest => .ok (.dict [], ⟨rest, r.offset + 1⟩)
        | _ => fields fuel depth [] r
    | _ => scalar r

/-- The items of a list from the next one on, after those in `done`, last first. -/
def items (fuel depth : Nat) (done : List Value) (r : Rest) : Except ReadError (Value × Rest) :=
  match fuel with
  | 0 => .error (.malformed r.offset)
  | fuel + 1 =>
    match value fuel depth r with
    | .error e => .error e
    | .ok (v, r) =>
      let r := r.skipBlanks
      match r.chars with
      | ']' :: rest => .ok (.list (v :: done).reverse, ⟨rest, r.offset + 1⟩)
      | ',' :: rest => items fuel depth (v :: done) (Rest.mk rest (r.offset + 1)).skipBlanks
      | _ => .error (.malformed r.offset)

/-- The fields of a mapping from the next one on, after those in `done`, last first. -/
def fields (fuel depth : Nat) (done : List (String × Value)) (r : Rest) :
    Except ReadError (Value × Rest) :=
  match fuel with
  | 0 => .error (.malformed r.offset)
  | fuel + 1 =>
    match r.chars with
    | '"' :: rest =>
      match string ⟨rest, r.offset + 1⟩ with
      | .error e => .error e
      | .ok (key, r) =>
        let r := r.skipBlanks
        match r.chars with
        | ':' :: rest =>
          match value fuel depth (Rest.mk rest (r.offset + 1)).skipBlanks with
          | .error e => .error e
          | .ok (v, r) =>
            let r := r.skipBlanks
            match r.chars with
            | '}' :: rest =>
              .ok (.dict (Fields.ofPairs ((key, v) :: done).reverse), ⟨rest, r.offset + 1⟩)
            | ',' :: rest =>
              fields fuel depth ((key, v) :: done) (Rest.mk rest (r.offset + 1)).skipBlanks
            | _ => .error (.malformed r.offset)
        | _ => .error (.malformed r.offset)
    | _ => .error (.malformed r.offset)

end

/-- Reads a document, for the nesting of which there is only so much room. -/
def read (room : Nat) (s : String) : Except ReadError Value :=
  let cs := s.toList
  match cs with
  | '\uFEFF' :: _ => .error (.malformed 0)
  | _ => do
    let (v, r) ← value (2 * cs.length + 2) room (Rest.mk cs 0).skipBlanks
    let r := r.skipBlanks
    if r.chars.isEmpty then .ok v else .error (.malformed r.offset)

end Automation.Json
