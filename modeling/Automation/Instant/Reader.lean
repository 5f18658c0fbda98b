import Automation.Instant
import Automation.Number.Double
import Automation.Text.Digit

/-!
Reading points in time: from a date with or without a time of day and a zone, and from the seconds that
have gone by since the start of 1970.
-/
namespace Automation.Instant

inductive DateError where
  | tooShort
  | year
  | separator
  | month
  | day
  | noSuchMonth
  | noSuchDay
  | trailing
  | tooEarly
  | tooLate
  | notNumber
  deriving DecidableEq, Repr

def DateError.message : DateError → String
  | .tooShort => "input is too short"
  | .year => "invalid character in year"
  | .separator => "invalid date separator, expected \x60-\x60"
  | .month => "invalid character in month"
  | .day => "invalid character in day"
  | .noSuchMonth => "month value is outside expected range of 1-12"
  | .noSuchDay => "day value is outside expected range"
  | .trailing => "unexpected extra characters at the end of the input"
  | .tooEarly => "dates before 0000 are not supported as unix timestamps"
  | .tooLate => "dates after 9999 are not supported as unix timestamps"
  | .notNumber => "NaN values not permitted"

def number? (cs : List Char) : Option Nat :=
  if cs.all Text.isAsciiDigit then
    some (Number.valueFrom 0 (cs.map fun c => c.toNat - '0'.toNat))
  else none

def readDate (cs : List Char) : Except DateError (Int × Nat × Nat) :=
  match cs with
  | y1 :: y2 :: y3 :: y4 :: s1 :: m1 :: m2 :: s2 :: d1 :: d2 :: _ =>
    match number? [y1, y2, y3, y4] with
    | none => .error .year
    | some year =>
      if s1 != '-' then .error .separator
      else match number? [m1, m2] with
      | none => .error .month
      | some month =>
        if s2 != '-' then .error .separator
        else match number? [d1, d2] with
        | none => .error .day
        | some day =>
          let days := daysInMonth year month
          if days = 0 then .error .noSuchMonth
          else if day < 1 || days < day then .error .noSuchDay
          else .ok (year, month, day)
  | _ => .error .tooShort

/-- The microseconds at which a text begins after the seconds, and what follows them. Digits after the
sixth do not count. -/
def fraction? (cs : List Char) : Option (Nat × List Char) :=
  match cs with
  | [] => some (0, [])
  | mark :: rest =>
    if mark == '.' || mark == ',' then
      let ds := rest.takeWhile Text.isAsciiDigit
      let counted := ds.take 6
      if ds.isEmpty then none
      else (number? counted).map fun n =>
        (n * Nat.pow 10 (6 - counted.length), rest.dropWhile Text.isAsciiDigit)
    else some (0, mark :: rest)

/-- The zone that a text is: none for the empty text, universal time for a `Z`, and otherwise the
minutes of a sign, hours and minutes. -/
def zone? (cs : List Char) : Option (Option Int) :=
  match cs with
  | [] => some none
  | ['Z'] | ['z'] => some (some 0)
  | sign :: h1 :: h2 :: rest => do
    let direction : Int ← if sign == '+' then some 1
      else if sign == '-' || sign == '−' then some (-1) else none
    let hours ← number? [h1, h2]
    let minutes ← match rest with
      | [':', m1, m2] | [m1, m2] => number? [m1, m2]
      | _ => none
    if hours < 24 && minutes < 60 then some (some (direction * (hours * 60 + minutes))) else none
  | _ => none

/-- A time of day, with the zone of its clock. -/
structure TimeOfDay where
  hour : Nat
  minute : Nat
  second : Nat := 0
  microsecond : Nat := 0
  zone : Option Int := none

/-- Reads a time of day: hours and minutes, perhaps seconds with a fraction, perhaps a zone. -/
def readTime? (cs : List Char) : Option TimeOfDay :=
  match cs with
  | h1 :: h2 :: ':' :: m1 :: m2 :: rest => do
    let hour ← number? [h1, h2]
    let minute ← number? [m1, m2]
    let (second, microsecond, rest) ← match rest with
      | ':' :: s1 :: s2 :: rest => do
        let second ← number? [s1, s2]
        let (microsecond, rest) ← fraction? rest
        some (second, microsecond, rest)
      | rest => some (0, 0, rest)
    let zone ← zone? rest
    if hour < 24 && minute < 60 && second < 60 then
      some { hour, minute, second, microsecond, zone }
    else none
  | _ => none

/-- Reads a date, or a date and a time of day. A text that is no date with a time is judged as a
date alone. -/
def readCalendar (s : String) : Except DateError Instant :=
  let cs := s.toList
  match readDate cs with
  | .error e => .error e
  | .ok (year, month, day) =>
    match cs.drop 10 with
    | [] => .ok (ofCalendar ⟨year, month, day, 0, 0, 0, 0⟩)
    | mark :: time =>
      if mark == 'T' || mark == 't' || mark == ' ' || mark == '_' then
        match readTime? time with
        | some t =>
          .ok { ofCalendar ⟨year, month, day, t.hour, t.minute, t.second, t.microsecond⟩ with
            zone := t.zone }
        | none => .error .trailing
      else .error .trailing

/-- The most seconds that are seconds; larger numbers are milliseconds. -/
def mostSeconds : Nat := 20000000000

/-- The point in time, in universal time, that lies a number of seconds after the start of 1970, and
some microseconds more. -/
def ofSeconds (count : Int) (more : Nat) : Except DateError Instant :=
  let whole := if count.natAbs ≤ mostSeconds then count * 1000000 else count * 1000
  let seconds := (whole + more).fdiv 1000000
  if seconds < daysFromDate 0 1 1 * 86400 then .error .tooEarly
  else if daysFromDate 10000 1 1 * 86400 ≤ seconds then .error .tooLate
  else .ok ⟨whole + more, some 0⟩

/-- The point in time that lies a number of seconds after the start of 1970, with a fraction that is
rounded to microseconds. -/
def ofDouble : Double → Except DateError Instant
  | .nan => .error .notNumber
  | .number negative rank =>
    if Double.infinityRank ≤ rank then .error (if negative then .tooEarly else .tooLate)
    else
      let (n, d) := Double.ratio rank
      let whole : Int := if negative then -(((n + d - 1) / d : Nat) : Int) else (n / d : Nat)
      let part := ((if negative then -(n : Int) else n) - whole * d).toNat
      ofSeconds whole ((2 * part * 1000000 + d) / (2 * d))

/-- Reads a point in time from text: a date, or seconds in digits. -/
def read (s : String) : Except DateError Instant :=
  match readCalendar s with
  | .ok t => .ok t
  | .error e =>
    let (negative, digits) := match s.toList with
      | '-' :: ds => (true, ds)
      | '+' :: ds => (false, ds)
      | ds => (false, ds)
    match digits, number? digits with
    | _ :: _, some n => ofSeconds (if negative then -(n : Int) else n) 0
    | _, _ => .error e

end Automation.Instant
