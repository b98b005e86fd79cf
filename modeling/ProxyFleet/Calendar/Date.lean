/-!
# Calendar dates

Dates of the proleptic Gregorian calendar in the years 1 to 9999, the count of days since the first
of them, and the weeks of the ISO calendar.
-/

namespace ProxyFleet

structure Date where
  year : Nat
  month : Nat
  day : Nat
  deriving DecidableEq, Repr

namespace Date

/-- Leap years: every fourth, but of the centuries only every fourth. -/
def isLeap (year : Nat) : Bool := year % 4 == 0 && (year % 100 != 0 || year % 400 == 0)

def monthLengths (leap : Bool) : List Nat :=
  [31, if leap then 29 else 28, 31, 30, 31, 30, 31, 31, 30, 31, 30, 31]

/-- The length of a month, zero when there is no such month. -/
def daysInMonth (year month : Nat) : Nat :=
  if month = 0 then 0 else (monthLengths (isLeap year)).getD (month - 1) 0

/-- Whether the three numbers name a day of the calendar. -/
def isValid (d : Date) : Bool :=
  1 ≤ d.year && d.year ≤ 9999 && 1 ≤ d.month && d.month ≤ 12 &&
    1 ≤ d.day && d.day ≤ daysInMonth d.year d.month

def daysBeforeYear (year : Nat) : Nat :=
  let y := year - 1
  365 * y + y / 4 - y / 100 + y / 400

def daysBeforeMonth (year month : Nat) : Nat :=
  ((monthLengths (isLeap year)).take (month - 1)).foldl (· + ·) 0

/-- The days from the first day of year 1 to a date. -/
def dayNumber (d : Date) : Nat :=
  daysBeforeYear d.year + daysBeforeMonth d.year d.month + (d.day - 1)

/-- The month and the day, counted from zero, in which a day of the year falls. -/
def splitMonths : List Nat → Nat → Nat × Nat
  | [], n => (0, n)
  | length :: rest, n =>
    if n < length then (0, n)
    else
      let (month, day) := splitMonths rest (n - length)
      (month + 1, day)

/-- The year of a day and the days of that year before it. -/
def splitYears (n : Nat) : Nat × Nat :=
  let n400 := n / 146097
  let r400 := n % 146097
  let n100 := min (r400 / 36524) 3
  let r100 := r400 - n100 * 36524
  let n4 := r100 / 1461
  let r4 := r100 % 1461
  let n1 := min (r4 / 365) 3
  (400 * n400 + 100 * n100 + 4 * n4 + n1 + 1, r4 - n1 * 365)

/-- The date that lies the given count of days after the first day of year 1. -/
def ofDayNumber (n : Nat) : Date :=
  let (year, rest) := splitYears n
  let (month, day) := splitMonths (monthLengths (isLeap year)) rest
  ⟨year, month + 1, day + 1⟩

/-- The day of the week of a day, Monday being zero. -/
def weekday (dayNumber : Nat) : Nat := dayNumber % 7

/-- Whether an ISO year has a week 53. -/
def hasWeek53 (year : Nat) : Bool :=
  let first := weekday (daysBeforeYear year)
  first == 3 || (first == 2 && isLeap year)

/-- The date of a weekday, Monday being one, in a week of an ISO year. -/
def ofWeek? (year week weekDay : Nat) : Option Date :=
  if year = 0 ∨ week = 0 ∨ 53 < week ∨ (week = 53 ∧ !hasWeek53 year) ∨
      weekDay = 0 ∨ 7 < weekDay then
    none
  else
    let first : Int := daysBeforeYear year
    let firstWeekday := weekday (daysBeforeYear year)
    let firstMonday : Int := first - firstWeekday + (if 3 < firstWeekday then 7 else 0)
    let n := firstMonday + 7 * (week - 1) + (weekDay - 1)
    if n < 0 then none else some (ofDayNumber n.toNat)

end Date

end ProxyFleet
