import Automation.Value.Basic

/-!
Targets of requests. Characters that cannot stand in a target are written as percent signs with two
hexadecimal digits for every byte; what is no text in UTF-8 becomes the replacement character.
-/
namespace Automation.Target

def hexValue? (c : Char) : Option Nat :=
  if '0' ≤ c && c ≤ '9' then some (c.toNat - '0'.toNat)
  else if 'a' ≤ c && c ≤ 'f' then some (c.toNat - 'a'.toNat + 10)
  else if 'A' ≤ c && c ≤ 'F' then some (c.toNat - 'A'.toNat + 10)
  else none

/-- The number of bytes that follow a first byte, and what they are added to. -/
def following? (b : Nat) : Option (Nat × Nat) :=
  if 0xC2 ≤ b && b ≤ 0xDF then some (1, b - 0xC0)
  else if 0xE0 ≤ b && b ≤ 0xEF then some (2, b - 0xE0)
  else if 0xF0 ≤ b && b ≤ 0xF4 then some (3, b - 0xF0)
  else none

/-- Whether a byte can stand second after a first one. The bounds rule out what has a shorter form,
what lies beyond the last character and the halves of pairs. -/
def isSecond (first second : Nat) : Bool :=
  let low := if first = 0xE0 then 0xA0 else if first = 0xF0 then 0x90 else 0x80
  let high := if first = 0xED then 0x9F else if first = 0xF4 then 0x8F else 0xBF
  low ≤ second && second ≤ high

def isContinuation (b : Nat) : Bool := 0x80 ≤ b && b ≤ 0xBF

/-- The character that stands for bytes that are no text. -/
def replacement : Char := Char.ofNat 0xFFFD

/-- The text of bytes. `waiting` is the first byte of a character under way, how many of its bytes are
still to come and what is read of it, if there is one. -/
def decodeBytes : Option (Nat × Nat × Nat) → List Nat → List Char
  | none, [] => []
  | some _, [] => [replacement]
  | none, b :: rest =>
    if b < 0x80 then Char.ofNat b :: decodeBytes none rest
    else match following? b with
      | some (count, value) => decodeBytes (some (b, count, value)) rest
      | none => replacement :: decodeBytes none rest
  | some (first, count, value), b :: rest =>
    let isStart := following? first == some (count, value)
    let fits := if isStart then isSecond first b else isContinuation b
    if fits then
      let value := value * 64 + (b - 0x80)
      if count = 1 then Char.ofNat value :: decodeBytes none rest
      else decodeBytes (some (first, count - 1, value)) rest
    else
      replacement :: (if b < 0x80 then Char.ofNat b :: decodeBytes none rest
        else match following? b with
          | some (count, value) => decodeBytes (some (b, count, value)) rest
          | none => replacement :: decodeBytes none rest)

/-- The byte that a text begins with as two hexadecimal digits after a percent sign. -/
def escapedByte? : List Char → Option (Nat × List Char)
  | '%' :: a :: b :: rest =>
    match hexValue? a, hexValue? b with
    | some x, some y => some (16 * x + y, rest)
    | _, _ => none
  | _ => none

/-- The text without escapes. `bytes` holds the escaped bytes just read, last first. Each round takes a
character at least, so the length bounds their number. -/
def decodeFrom (bytes : List Nat) : Nat → List Char → List Char
  | 0, _ => decodeBytes none bytes.reverse
  | fuel + 1, cs =>
    match escapedByte? cs with
    | some (b, rest) => decodeFrom (b :: bytes) fuel rest
    | none =>
      match cs with
      | [] => decodeBytes none bytes.reverse
      | c :: rest => decodeBytes none bytes.reverse ++ c :: decodeFrom [] fuel rest

def decode (s : String) : String :=
  let cs := s.toList
  String.ofList (decodeFrom [] (cs.length + 1) cs)

/-- Cuts a target at its first question mark. -/
def cutQuery (target : String) : String × String :=
  let cs := target.toList
  (String.ofList (cs.takeWhile (· != '?')), String.ofList ((cs.dropWhile (· != '?')).drop 1))

/-- A name or a value in a query: a plus sign stands for a space. -/
def decodeWord (cs : List Char) : String :=
  decode (String.ofList (cs.map fun c => if c == '+' then ' ' else c))

/-- The fields of a query; of several values for a name the last counts. -/
def queryFields (query : String) : Fields String :=
  let words := (query.splitOn "&").filter (· != "")
  Fields.ofPairs (words.map fun word =>
    let cs := word.toList
    (decodeWord (cs.takeWhile (· != '=')), decodeWord ((cs.dropWhile (· != '=')).drop 1)))

end Automation.Target
