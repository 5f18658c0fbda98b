import Automation.Number.Digits
import Automation.Number.Shortest

/-!
Points in time, in microseconds since the start of 1970, and their calendar form. The calendar is the
proleptic Gregorian one. A point in time may say in which zone the clock stood that showed it.
-/
namespace Automation

structure Instant where
  /-- Microseconds since the start of 1970 on that clock. -/
  microseconds : Int
  /-- The minutes by which the clock is ahead of universal time, where that is known. -/
  zone : Option Int := none
  deriving DecidableEq, Repr, Inhabited

namespace Instant

structure Calendar where
  year : Int
  month : Nat
  day : Nat
  hour : Nat
  minute : Nat
  second : Nat
  microsecond : Nat
  deriving DecidableEq, Repr

def isLeap (year : Int) : Bool := (year % 4 == 0 && year % 100 != 0) || year % 400 == 0

/-- The length of a month, zero for what is no month. -/
def daysInMonth (year : Int) (month : Nat) : Nat :=
  match month with
  | 1 | 3 | 5 | 7 | 8 | 10 | 12 => 31
  | 4 | 6 | 9 | 11 => 30
  | 2 => if isLeap year then 29 else 28
  | _ => 0

/-- Days from the start of 1970 to a date. Years are counted from March, so that the leap day ends
one, and in eras of four hundred years. -/
def daysFromDate (year : Int) (month day : Nat) : Int :=
  let y := if month ≤ 2 then year - 1 else year
  let era := y.fdiv 400
  let yearOfEra := y - era * 400
  let monthFromMarch : Int := if month > 2 then month - 3 else month + 9
  let dayOfYear := (153 * monthFromMarch + 2) / 5 + day - 1
  let dayOfEra := yearOfEra * 365 + yearOfEra / 4 - yearOfEra / 100 + dayOfYear
  era * 146097 + dayOfEra - 719468

/-- The date that lies a number of days after the start of 1970. -/
def dateFromDays (days : Int) : Int × Nat × Nat :=
  let z := days + 719468
  let era := z.fdiv 146097
  let dayOfEra := z - era * 146097
  let yearOfEra := (dayOfEra - dayOfEra / 1460 + dayOfEra / 36524 - dayOfEra / 146096) / 365
  let dayOfYear := dayOfEra - (365 * yearOfEra + yearOfEra / 4 - yearOfEra / 100)
  let monthFromMarch := (5 * dayOfYear + 2) / 153
  let day := dayOfYear - (153 * monthFromMarch + 2) / 5 + 1
  let month := if monthFromMarch < 10 then monthFromMarch + 3 else monthFromMarch - 9
  let year := yearOfEra + era * 400 + (if month ≤ 2 then 1 else 0)
  (year, month.toNat, day.toNat)

def microsecondsPerDay : Int := 86400000000

def ofCalendar (c : Calendar) : Instant :=
  let seconds : Int := (c.hour * 60 + c.minute) * 60 + c.second
  ⟨daysFromDate c.year c.month c.day * microsecondsPerDay + seconds * 1000000 + c.microsecond, none⟩

/-- The same time shown by a clock that keeps its zone to itself. -/
def zoneless (t : Instant) : Instant := { t with zone := none }

/-- A number of microseconds later. -/
def later (t : Instant) (n : Nat) : Instant := { t with microseconds := t.microseconds + n }

def toCalendar (t : Instant) : Calendar :=
  let days := t.microseconds.fdiv microsecondsPerDay
  let rest := (t.microseconds - days * microsecondsPerDay).toNat
  let (year, month, day) := dateFromDays days
  let seconds := rest / 1000000
  ⟨year, month, day, seconds / 3600, seconds / 60 % 60, seconds % 60, rest % 1000000⟩

def field (width n : Nat) : String := String.ofList (Number.padLeft width (Number.digits n))

def dateText (c : Calendar) : String :=
  s!"{field 4 c.year.toNat}-{field 2 c.month}-{field 2 c.day}"

def timeText (c : Calendar) : String := s!"{field 2 c.hour}:{field 2 c.minute}:{field 2 c.second}"

def zoneText (minutes : Int) : String :=
  let sign := if minutes < 0 then "-" else "+"
  s!"{sign}{field 2 (minutes.natAbs / 60)}:{field 2 (minutes.natAbs % 60)}"

/-- Date and time with a `T` between them, microseconds where there are any, and the zone where it is
known. -/
def isoText (t : Instant) : String :=
  let c := t.toCalendar
  let fraction := if c.microsecond = 0 then "" else "." ++ field 6 c.microsecond
  let zone := (t.zone.map zoneText).getD ""
  s!"{dateText c}T{timeText c}{fraction}{zone}"

/-- Date and time to the second, with a space between them. -/
def stampText (t : Instant) : String :=
  let c := t.toCalendar
  s!"{dateText c} {timeText c}"

end Instant
end Automation
