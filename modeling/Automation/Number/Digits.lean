/-!
Decimal digits of natural numbers, written and read in the ten digits of ASCII.
-/
namespace Automation.Number

def digitChar (d : Nat) : Char := Char.ofNat ('0'.toNat + d)

/-- The digits of `n` in front of `rest`. -/
def digitsOnto (n : Nat) (rest : List Char) : List Char :=
  if n < 10 then digitChar n :: rest else digitsOnto (n / 10) (digitChar (n % 10) :: rest)
termination_by n

def digits (n : Nat) : List Char := digitsOnto n []

def integerDigits (n : Int) : List Char :=
  if n < 0 then '-' :: digits n.natAbs else digits n.natAbs

def integerText (n : Int) : String := String.ofList (integerDigits n)

def valueFrom (start : Nat) (values : List Nat) : Nat := values.foldl (fun n d => 10 * n + d) start

def digitCount (n : Int) : Nat := (digits n.natAbs).length

/-- The most digits that an integer may have when it is written or read as text. -/
def maxDigits : Nat := 4300

/-- Whether an integer is short enough to be written. The power of ten decides long ones without
their digits. -/
def isWritable (n : Int) : Bool := n.natAbs < Nat.pow 10 maxDigits

end Automation.Number
