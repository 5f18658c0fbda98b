import Automation.Number.Shortest
import Automation.Text.Quoted
import Automation.Value.Basic

/-!
Data as JSON, in ASCII: every other character is written as an escape, those beyond the basic plane
as two halves. Doubles are written with the fewest digits that read back.
-/
namespace Automation.Json

open Automation.Number Automation.Text

/-- What stands between the items of a list and between a key and its value. -/
structure Separators where
  item : List Char
  key : List Char

/-- No space anywhere. -/
def compact : Separators := ⟨[','], [':']⟩

/-- A space after every comma and colon. -/
def spaced : Separators := ⟨[',', ' '], [':', ' ']⟩

def unit (n : Nat) : List Char := '\\' :: 'u' :: hexDigits 4 n

/-- The escape of a character: one unit, or the two halves of one beyond the basic plane. -/
def escape (c : Char) : List Char :=
  let n := c.toNat
  if n < 0x10000 then unit n
  else unit (0xD800 + (n - 0x10000) / 0x400) ++ unit (0xDC00 + (n - 0x10000) % 0x400)

def stringChar (c : Char) : List Char :=
  if c == '"' then ['\\', '"']
  else if c == '\\' then ['\\', '\\']
  else if c == '\n' then ['\\', 'n']
  else if c == '\r' then ['\\', 'r']
  else if c == '\t' then ['\\', 't']
  else if c.toNat = 8 then ['\\', 'b']
  else if c.toNat = 12 then ['\\', 'f']
  else if 0x20 ≤ c.toNat && c.toNat ≤ 0x7E then [c]
  else escape c

def stringChars (s : String) : List Char := '"' :: (s.toList.flatMap stringChar ++ ['"'])

/-- A double, with the names that JSON texts use for what has no digits. -/
def doubleChars (x : Double) : List Char :=
  if x.isFinite then doubleDigits x
  else match x with
    | .nan => "NaN".toList
    | .number negative _ => (if negative then "-Infinity" else "Infinity").toList

mutual

def chars (sep : Separators) : Value → List Char
  | .null => "null".toList
  | .bool b => (if b then "true" else "false").toList
  | .int n => integerDigits n
  | .float x => doubleChars x
  | .str s => stringChars s
  | .list items => '[' :: (itemChars sep items ++ [']'])
  | .dict fields => '{' :: (fieldChars sep fields ++ ['}'])

def itemChars (sep : Separators) : List Value → List Char
  | [] => []
  | v :: rest => chars sep v ++ (if rest.isEmpty then [] else sep.item ++ itemChars sep rest)

def fieldChars (sep : Separators) : List (String × Value) → List Char
  | [] => []
  | (k, v) :: rest =>
    stringChars k ++ sep.key ++ chars sep v ++
      (if rest.isEmpty then [] else sep.item ++ fieldChars sep rest)

end

def write (sep : Separators) (v : Value) : String := String.ofList (chars sep v)

end Automation.Json
