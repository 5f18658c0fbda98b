import Automation.Number.Digits
import Automation.Number.Double

/-!
The text of a double: the fewest digits that read back to it, and of those the nearest ones, laid
out by position for middling exponents and with a power of ten otherwise.
-/
namespace Automation.Number

/-- The reals that round to a rank, as bounds scaled to a common denominator: `low / scale` to
`high / scale` around `middle / scale`. The ends belong to it when the mantissa is even. -/
structure Interval where
  low : Nat
  middle : Nat
  high : Nat
  scale : Nat
  closed : Bool

/-- The interval of a positive finite rank. Below a power of two the neighbour is half as far. -/
def Interval.ofRank (rank : Nat) : Interval :=
  let (mantissa, exponent) := Double.parts rank
  let up := Nat.pow 2 exponent.toNat
  let atBoundary := mantissa = Double.binade ∧ -1074 < exponent
  { low := (4 * mantissa - (if atBoundary then 1 else 2)) * up
    middle := 4 * mantissa * up
    high := (4 * mantissa + 2) * up
    scale := 4 * Nat.pow 2 (-exponent).toNat
    closed := mantissa % 2 = 0 }

/-- Whether `n · 10 ^ power` lies in the interval. -/
def Interval.contains (i : Interval) (n : Nat) (power : Int) : Bool :=
  let value := n * Nat.pow 10 power.toNat * i.scale
  let unit := Nat.pow 10 (-power).toNat
  if i.closed then i.low * unit ≤ value && value ≤ i.high * unit
  else i.low * unit < value && value < i.high * unit

/-- The decimal exponent of the interval's middle: the place of its first digit. Scaling by a power
of ten that makes every double an integer part leaves only digits to be counted. -/
def Interval.firstPlace (i : Interval) : Int :=
  ((digits (i.middle * Nat.pow 10 400 / i.scale)).length : Int) - 401

/-- Of the two multiples of `10 ^ power` around the middle, the nearest that the interval contains;
a tie goes to the even digit. -/
def Interval.pick? (i : Interval) (power : Int) : Option Nat :=
  let n := i.middle * Nat.pow 10 (-power).toNat
  let d := i.scale * Nat.pow 10 power.toNat
  let below := n / d
  let rest := 2 * (n % d)
  let belowFirst := rest < d ∨ (rest = d ∧ below % 2 = 0)
  let first := if belowFirst then below else below + 1
  let second := if belowFirst then below + 1 else below
  if i.contains first power then some first
  else if i.contains second power then some second
  else none

/-- The fewest digits, tried from `count` digits on. Seventeen digits tell all doubles apart. -/
def Interval.shortest (i : Interval) : Nat → Nat → Nat × Int
  | 0, count =>
    let power := i.firstPlace - (count : Int) + 1
    ((i.pick? power).getD 0, power)
  | tries + 1, count =>
    let power := i.firstPlace - (count : Int) + 1
    match i.pick? power with
    | some n => (n, power)
    | none => i.shortest tries (count + 1)

/-- The digits of a positive finite rank without trailing zeros, and the place of the first one. -/
def shortestDigits (rank : Nat) : List Char × Int :=
  let (n, power) := (Interval.ofRank rank).shortest 16 1
  let all := digits n
  let kept := (all.reverse.dropWhile (· == '0')).reverse
  (kept, power + all.length - 1)

structure Layout where
  /-- The least place of a first digit that is written by position. -/
  leastPlace : Int
  /-- The first place of a first digit that is written with a power of ten. -/
  exponentFrom : Int
  /-- The least number of digits of the power of ten. -/
  exponentWidth : Nat

/-- Positional from four zeros after the point up to sixteen digits before it. -/
def layout : Layout := ⟨-4, 16, 2⟩

def padLeft (width : Nat) (cs : List Char) : List Char :=
  List.replicate (width - cs.length) '0' ++ cs

/-- Digits written around a point, with a zero where a side has none. -/
def positional (ds : List Char) (place : Int) : List Char :=
  if place < 0 then '0' :: '.' :: List.replicate (-place - 1).toNat '0' ++ ds
  else
    let before := place.toNat + 1
    let whole := ds.take before
    let fraction := ds.drop before
    whole ++ List.replicate (before - whole.length) '0' ++
      '.' :: (if fraction.isEmpty then ['0'] else fraction)

/-- Digits written with a power of ten. -/
def scientific (layout : Layout) (ds : List Char) (place : Int) : List Char :=
  let mantissa := match ds with
    | [] => ['0']
    | [d] => [d]
    | d :: rest => d :: '.' :: rest
  mantissa ++ 'e' :: (if place < 0 then '-' else '+') ::
    padLeft layout.exponentWidth (digits place.natAbs)

def doubleDigits : Double → List Char
  | .nan => "nan".toList
  | .number negative rank =>
    let body :=
      if Double.infinityRank ≤ rank then "inf".toList
      else if rank = 0 then "0.0".toList
      else
        let (ds, place) := shortestDigits rank
        if layout.leastPlace ≤ place ∧ place < layout.exponentFrom then positional ds place
        else scientific layout ds place
    if negative then '-' :: body else body

def doubleText (x : Double) : String := String.ofList (doubleDigits x)

end Automation.Number
