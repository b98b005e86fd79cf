import ProxyFleet.Calendar.Moment
import ProxyFleet.Text.Basic

/-!
# ISO 8601 texts of points in time

The writer prints `YYYY-MM-DDTHH:MM:SS[.ffffff][±HH:MM[:SS[.ffffff]]]`. The reader is wider: dates
with and without dashes, ISO weeks, any single character between date and time, times cut short
after the hour or the minute, and fractions of any length after a point or a comma.
-/

namespace ProxyFleet.Moment

/-- A number with zeros in front up to the given width. -/
def padded (width n : Nat) : List Char :=
  let ds := Nat.toDigits 10 n
  List.replicate (width - ds.length) '0' ++ ds

/-- Microseconds as a fraction, nothing when there are none. -/
def fractionText (microsecond : Nat) : List Char :=
  if microsecond = 0 then [] else '.' :: padded 6 microsecond

def offsetText (offset : Int) : List Char :=
  let n := offset.natAbs
  let seconds := n / 1000000 % 60
  let micros := n % 1000000
  (if offset < 0 then '-' else '+') :: (padded 2 (n / 3600000000) ++
    ':' :: (padded 2 (n / 60000000 % 60) ++
      (if seconds = 0 ∧ micros = 0 then [] else ':' :: (padded 2 seconds ++ fractionText micros))))

/-- The date and time of day, without the offset. -/
def localText (m : Moment) : List Char :=
  padded 4 m.date.year ++ '-' :: (padded 2 m.date.month ++ '-' :: (padded 2 m.date.day ++
    'T' :: (padded 2 m.hour ++ ':' :: (padded 2 m.minute ++ ':' :: (padded 2 m.second ++
      fractionText m.microsecond)))))

def toIso (m : Moment) : Text := .ofChars (m.localText ++ m.offset.elim [] offsetText)

def isDigit (c : Char) : Bool := Text.isAsciiDigit c

/-- The number written by the first `n` ASCII digits, and what follows them. -/
def takeNumber? (n : Nat) (cs : List Char) : Option (Nat × List Char) :=
  let ds := cs.take n
  if ds.length = n ∧ ds.all isDigit then
    some (ds.foldl (fun v d => 10 * v + (d.toNat - 48)) 0, cs.drop n)
  else none

/-- The character at a position, a null character past the end. -/
def charAt (cs : List Char) (i : Nat) : Char := cs.getD i '\x00'

/-- How many characters the date takes, `2024-W05-12` being read as a week followed by an hour. -/
def dateLength? (cs : List Char) : Option Nat :=
  if cs.length < 7 then none
  else if cs.length = 7 then some 7
  else if charAt cs 4 = '-' then
    if charAt cs 5 = 'W' then
      if 8 < cs.length ∧ charAt cs 8 = '-' then
        if cs.length = 9 then none
        else if 10 < cs.length ∧ isDigit (charAt cs 10) then some 8
        else some 10
      else some 8
    else some 10
  else if charAt cs 4 = 'W' then
    let last := 7 + ((cs.drop 7).takeWhile isDigit).length
    if last < 9 then some last else if last % 2 = 0 then some 7 else some 8
  else some 8

/-- A week date after its `W`, `dashed` telling whether the parts are separated. -/
def readWeek? (year : Nat) (dashed : Bool) (cs : List Char) : Option Date := do
  let (week, rest) ← takeNumber? 2 cs
  match dashed, rest with
  | _, [] => Date.ofWeek? year week 1
  | true, '-' :: rest =>
    let (day, _) ← takeNumber? 1 rest
    Date.ofWeek? year week day
  | true, _ => none
  | false, rest =>
    let (day, _) ← takeNumber? 1 rest
    Date.ofWeek? year week day

/-- A date after its year. -/
def readMonthDay? (year : Nat) (dashed : Bool) (cs : List Char) : Option Date := do
  let (month, rest) ← takeNumber? 2 cs
  match dashed, rest with
  | true, '-' :: rest =>
    let (day, _) ← takeNumber? 2 rest
    return ⟨year, month, day⟩
  | true, _ => none
  | false, rest =>
    let (day, _) ← takeNumber? 2 rest
    return ⟨year, month, day⟩

def readDate? (cs : List Char) : Option Date := do
  let (year, rest) ← takeNumber? 4 cs
  let (dashed, rest) := match rest with
    | '-' :: rest => (true, rest)
    | rest => (false, rest)
  match rest with
  | 'W' :: rest => readWeek? year dashed rest
  | rest => readMonthDay? year dashed rest

/-- A reading on a clock; `complete` tells whether nothing was left over. -/
structure Clock where
  hour : Nat
  minute : Nat
  second : Nat
  microsecond : Nat
  complete : Bool
  deriving DecidableEq, Repr

/-- The microseconds of a fraction cut to six digits, and whether nothing but digits was left.
`next` is the character after the region. -/
def readFraction? (next : Char) (cs : List Char) : Option (Nat × Bool) := do
  let width := min 6 cs.length
  let (value, rest) ← takeNumber? width cs
  let stop := (rest.dropWhile isDigit).headD next
  return (value * Nat.pow 10 (6 - width), stop == '\x00')

/-- The parts of a clock reading from the one of index `part` on. Two digits each, separated by
colons when `colons` holds; after a point, a comma or the seconds comes the fraction. -/
def readParts? (next : Char) (colons : Bool) (cs : List Char) : Nat → Option (List Nat × Nat × Bool)
  | 0 => do
    let (micros, complete) ← readFraction? next cs
    return ([], micros, complete)
  | parts + 1 => do
    let (value, rest) ← takeNumber? 2 cs
    let stop := rest.headD next
    let colons := if parts = 2 then stop == ':' else colons
    if rest.length ≤ 1 ∧ stop.toNat < 128 then return ([value], 0, stop == '\x00')
    else if colons && stop == ':' then
      let (values, micros, complete) ← readParts? next colons rest.tail parts
      return (value :: values, micros, complete)
    else if stop = '.' ∨ stop = ',' then
      let (micros, complete) ← readFraction? next rest.tail
      return ([value], micros, complete)
    else if colons then none
    else
      let (values, micros, complete) ← readParts? next colons rest parts
      return (value :: values, micros, complete)

/-- A clock reading of one to three parts and a fraction. -/
def readClock? (next : Char) (cs : List Char) : Option Clock := do
  let (values, micros, complete) ← readParts? next true cs 3
  return ⟨values.getD 0 0, values.getD 1 0, values.getD 2 0, micros, complete⟩

def startsOffset (c : Char) : Bool := c == '+' || c == '-' || c == 'Z'

/-- An offset, its sign included; one of less than a second is none at all. -/
def readOffset? : List Char → Option Int
  | 'Z' :: rest => if rest.headD '\x00' = '\x00' then some 0 else none
  | sign :: rest => do
    let clock ← readClock? '\x00' rest
    if !clock.complete then none
    let seconds := (clock.hour * 60 + clock.minute) * 60 + clock.second
    let n := if seconds = 0 then 0 else seconds * 1000000 + clock.microsecond
    return if sign = '-' then -(n : Int) else n
  | [] => none

/-- A time of day with an optional offset, on the given date. -/
def readTime? (date : Date) (cs : List Char) : Option Moment := do
  let region := cs.takeWhile fun c => !startsOffset c
  let tail := cs.dropWhile fun c => !startsOffset c
  let clock ← readClock? (tail.headD '\x00') region
  match tail with
  | [] =>
    if clock.complete then
      return ⟨date, clock.hour, clock.minute, clock.second, clock.microsecond, none⟩
    else none
  | tail =>
    let offset ← readOffset? tail
    return ⟨date, clock.hour, clock.minute, clock.second, clock.microsecond, some offset⟩

/-- The parts of a moment, their ranges not yet checked. -/
def readIso? (cs : List Char) : Option Moment := do
  let n ← dateLength? cs
  let date ← readDate? (cs.take n)
  match cs.drop n with
  | [] => return ⟨date, 0, 0, 0, 0, none⟩
  | _ :: time => readTime? date time

/-- The characters of a text in which half of a surrogate pair may stand between date and time, like
any other separator. -/
def separated? (s : Text) : Option (List Char) :=
  match [7, 8, 10].find? fun i => s[i]?.any fun c => c.char?.isNone with
  | some i => Text.chars? (s.set i 'T')
  | none => s.chars?

def ofIso? (s : Text) : Option Moment := do
  let m ← readIso? (← separated? s)
  if m.isValid then return m else none

end ProxyFleet.Moment
