/-!
Double-precision numbers, exactly. A number is a sign and a rank: the doubles of one sign stand in
ascending order from zero to infinity, and the rank is the place in that order. So comparing is
comparing integers, and rounding a ratio is finding its place.
-/
namespace Automation

/-- A double: not a number, or a sign and a rank. Rank 0 is zero of either sign. -/
inductive Double where
  | nan
  | number (negative : Bool) (rank : Nat)
  deriving DecidableEq, Repr

namespace Double

/-- The number of doubles between one power of two and the next. -/
def binade : Nat := Nat.pow 2 52

/-- The rank of infinity, the last one. -/
def infinityRank : Nat := 2047 * binade

def zero : Double := .number false 0

def infinity : Double := .number false infinityRank

def neg : Double → Double
  | .nan => .nan
  | .number negative rank => .number (!negative) rank

def isFinite : Double → Bool
  | .nan => false
  | .number _ rank => rank < infinityRank

/-- The place of a number among all of both signs; the two zeros share one. -/
def key? : Double → Option Int
  | .nan => none
  | .number negative rank => some (if negative then -(rank : Int) else rank)

/-- Equality of numbers: the two zeros are equal, and what is not a number equals nothing. -/
def equal (x y : Double) : Bool :=
  match x.key?, y.key? with
  | some a, some b => a == b
  | _, _ => false

/-- Strictly less. What is not a number is neither less nor greater than anything. -/
def less (x y : Double) : Bool :=
  match x.key?, y.key? with
  | some a, some b => a < b
  | _, _ => false

/-- Less or equal, as numbers. -/
def atMost (x y : Double) : Bool :=
  match x.key?, y.key? with
  | some a, some b => a ≤ b
  | _, _ => false

/-- The mantissa and the power of two whose product is the value of a finite rank. -/
def parts (rank : Nat) : Nat × Int :=
  if rank < binade then (rank, -1074)
  else (binade + rank % binade, (rank / binade : Nat) - 1075)

/-- The quotient rounded to the nearest natural number, a half to the even neighbour. -/
def roundHalfEven (n d : Nat) : Nat :=
  let quotient := n / d
  let rest := 2 * (n % d)
  if rest < d then quotient
  else if d < rest then quotient + 1
  else if quotient % 2 = 0 then quotient else quotient + 1

/-- The greatest power of two that is at most `n / d`, as an exponent. -/
def floorLog2 (n d : Nat) : Int :=
  let guess : Int := (n.log2 : Int) - (d.log2 : Int)
  if d * Nat.pow 2 guess.toNat ≤ n * Nat.pow 2 (-guess).toNat then guess else guess - 1

/-- The rank nearest to the ratio `n / d`, a tie going to the even mantissa. Mantissas have 53 bits,
and fewer below the smallest normal number; a mantissa that rounds up to the next power of two lands
on the next rank by itself. -/
def rankOfRatio (n d : Nat) : Nat :=
  if n = 0 then 0
  else
    let exponent := max (-1074) (floorLog2 n d - 52)
    let mantissa := roundHalfEven (n * Nat.pow 2 (-exponent).toNat) (d * Nat.pow 2 exponent.toNat)
    min infinityRank ((exponent + 1074).toNat * binade + mantissa)

/-- The rank nearest to `digits · 10 ^ exponent`, where `count` is at least the number of decimal
digits. Exponents out of reach are decided without computing the power. -/
def rankOfDecimal (digits count : Nat) (exponent : Int) : Nat :=
  if digits = 0 then 0
  else if 400 < exponent then infinityRank
  else if exponent < -((count : Int) + 400) then 0
  else rankOfRatio (digits * Nat.pow 10 exponent.toNat) (Nat.pow 10 (-exponent).toNat)

/-- The double nearest to an integer, if it is finite. -/
def ofInt? (n : Int) : Option Double :=
  let rank := rankOfRatio n.natAbs 1
  if rank < infinityRank then some (.number (n < 0) rank) else none

/-- The value of a finite double as a quotient of natural numbers, the sign aside. -/
def ratio (rank : Nat) : Nat × Nat :=
  let (mantissa, exponent) := parts rank
  (mantissa * Nat.pow 2 exponent.toNat, Nat.pow 2 (-exponent).toNat)

/-- The integer that a double is exactly, if it is one. -/
def toInt? : Double → Option Int
  | .nan => none
  | .number negative rank =>
    if rank < infinityRank then
      let (n, d) := ratio rank
      if n % d = 0 then some (if negative then -((n / d : Nat) : Int) else (n / d : Nat)) else none
    else none

/-- Equality with an integer, which is exact. -/
def equalInt (x : Double) (n : Int) : Bool := x.toInt? == some n

end Double
end Automation
