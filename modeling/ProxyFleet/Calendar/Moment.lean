import ProxyFleet.Calendar.Date

/-!
# Points in time

A date with a time of day to the microsecond, and the offset from universal time when one is known.
-/

namespace ProxyFleet

/-- A date and time of day; `offset` is the distance from universal time in microseconds. -/
structure Moment where
  date : Date
  hour : Nat
  minute : Nat
  second : Nat
  microsecond : Nat
  offset : Option Int
  deriving DecidableEq, Repr

namespace Moment

def dayLength : Nat := 86400000000

def timeOfDay (m : Moment) : Nat :=
  ((m.hour * 60 + m.minute) * 60 + m.second) * 1000000 + m.microsecond

/-- Whether every part lies in its range and the offset is shorter than a day. -/
def isValid (m : Moment) : Bool :=
  m.date.isValid && m.hour ≤ 23 && m.minute ≤ 59 && m.second ≤ 59 && m.microsecond ≤ 999999 &&
    match m.offset with
    | none => true
    | some o => o.natAbs < dayLength

/-- The microseconds since the start of year 1 on the clock that the moment was read from. -/
def localTime (m : Moment) : Int := m.date.dayNumber * dayLength + m.timeOfDay

/-- The microseconds since the start of year 1 in universal time; a moment without an offset counts
as universal. -/
def instant (m : Moment) : Int := m.localTime - m.offset.getD 0

/-- The moment of universal time at an instant of the years 1 to 9999. -/
def ofInstant? (t : Int) : Option Moment :=
  if t < 0 then none
  else
    let n := t.toNat
    let date := Date.ofDayNumber (n / dayLength)
    let rest := n % dayLength
    if 9999 < date.year then none
    else
      some
        { date
          hour := rest / 3600000000
          minute := rest / 60000000 % 60
          second := rest / 1000000 % 60
          microsecond := rest % 1000000
          offset := some 0 }

/-- The same instant in universal time, if it lies in the years 1 to 9999. -/
def toUniversal? (m : Moment) : Option Moment := ofInstant? m.instant

/-- Which of two moments is earlier; a moment with an offset and one without cannot be compared. -/
def compare? (a b : Moment) : Option Ordering :=
  if a.offset.isSome = b.offset.isSome then some (compare a.instant b.instant) else none

end Moment

end ProxyFleet
