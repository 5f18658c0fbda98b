import Automation.Text.Printable

/-!
Quoted text as messages show it: in single quotes, or in double quotes where the text has a single
quote and no double one. What cannot be shown as itself is written as an escape.
-/
namespace Automation.Text

def hexDigit (n : Nat) : Char :=
  if n < 10 then Char.ofNat ('0'.toNat + n) else Char.ofNat ('a'.toNat + (n - 10))

/-- The last `width` hexadecimal digits of a number. -/
def hexDigits : Nat → Nat → List Char
  | 0, _ => []
  | width + 1, n => hexDigits width (n / 16) ++ [hexDigit (n % 16)]

namespace Quoted

def mark (cs : List Char) : Char :=
  if cs.contains '\'' && !cs.contains '"' then '"' else '\''

/-- A character that cannot stand for itself: two, four or eight hexadecimal digits, as it needs. -/
def escape (c : Char) : List Char :=
  if c.toNat ≤ 0xFF then '\\' :: 'x' :: hexDigits 2 c.toNat
  else if c.toNat ≤ 0xFFFF then '\\' :: 'u' :: hexDigits 4 c.toNat
  else '\\' :: 'U' :: hexDigits 8 c.toNat

/-- One character of a text quoted by `quote`. -/
def char (quote c : Char) : List Char :=
  if c == quote || c == '\\' then ['\\', c]
  else if c == '\n' then ['\\', 'n']
  else if c == '\r' then ['\\', 'r']
  else if c == '\t' then ['\\', 't']
  else if isPrintable c then [c]
  else escape c

end Quoted

def quoted (s : String) : String :=
  let cs := s.toList
  let quote := Quoted.mark cs
  String.ofList (quote :: cs.flatMap (Quoted.char quote) ++ [quote])

end Automation.Text
