/-!
Blanks: the white space of every script together with the four information separators. Trimming
takes them off both ends of a text.
-/
namespace Automation.Text

/-- The blanks. The zero-width space and the byte order mark are not among them. -/
def isBlank (c : Char) : Bool :=
  let n := c.toNat
  (9 ≤ n && n ≤ 13) || (0x1C ≤ n && n ≤ 0x20) || n == 0x85 || n == 0xA0 || n == 0x1680 ||
    (0x2000 ≤ n && n ≤ 0x200A) || n == 0x2028 || n == 0x2029 || n == 0x202F || n == 0x205F ||
    n == 0x3000

/-- The information separators, which are blanks of text but not of numerals. -/
def isSeparator (c : Char) : Bool := 0x1C ≤ c.toNat && c.toNat ≤ 0x1F

/-- The white space that may surround a numeral. -/
def isSpace (c : Char) : Bool := isBlank c && !isSeparator c

/-- The text without the leading characters of a class. -/
def dropStart (p : Char → Bool) (cs : List Char) : List Char := cs.dropWhile p

/-- The text without the trailing characters of a class. -/
def dropEnd (p : Char → Bool) (cs : List Char) : List Char := (cs.reverse.dropWhile p).reverse

/-- The text without the characters of a class at either end. -/
def strip (p : Char → Bool) (cs : List Char) : List Char := dropEnd p (dropStart p cs)

/-- The text without blanks at either end. -/
def trim (s : String) : String := String.ofList (strip isBlank s.toList)

/-- The text without blanks at its end. -/
def trimEnd (s : String) : String := String.ofList (dropEnd isBlank s.toList)

end Automation.Text
