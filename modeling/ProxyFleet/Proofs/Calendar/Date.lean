import Mathlib.Algebra.BigOperators.Group.List.Basic
import Mathlib.Algebra.Order.Ring.Nat
import Mathlib.Tactic.Common
import ProxyFleet.Calendar.Date

/-!
# Dates and their numbers

The number of a date is the days of the years before it, those of the months before it and those of
its month. Taking the years off first and then the months gives the date back.
-/

namespace ProxyFleet.Date

variable {d : Date} {year month n r : Nat} {lengths : List Nat}

/-! ## Months -/

/-- A day that lies as far behind the months before it falls into the month behind them. -/
lemma splitMonths_sum (within : month < lengths.length) (inside : r < lengths[month]) :
    splitMonths lengths ((lengths.take month).sum + r) = (month, r) := by
  induction lengths generalizing month with
  | nil => cases within
  | cons length rest ih =>
    cases month with
    | zero =>
      rw [splitMonths, if_pos (by simpa using inside)]
      simp
    | succ month =>
      have behind : ((length :: rest).take (month + 1)).sum + r =
          length + ((rest.take month).sum + r) := by
        rw [List.take_succ_cons, List.sum_cons, Nat.add_assoc]
      rw [splitMonths, behind, if_neg (by omega), Nat.add_sub_cancel_left,
        ih (by simpa using within) (by simpa using inside)]

/-- The days before a month are those of the months before it. -/
lemma daysBeforeMonth_eq (year month : Nat) :
    daysBeforeMonth year month = ((monthLengths (isLeap year)).take (month - 1)).sum := by
  rw [daysBeforeMonth, List.sum_eq_foldl_nat]

/-- A year has twelve months. -/
lemma length_monthLengths (leap : Bool) : (monthLengths leap).length = 12 := rfl

/-- A year has 365 days, a leap year one more. -/
lemma sum_monthLengths (leap : Bool) :
    (monthLengths leap).sum = 365 + (if leap then 1 else 0) := by
  cases leap <;> rfl

/-- The days in a month are what the list of months says. -/
lemma daysInMonth_eq (first : 1 ≤ month)
    (within : month - 1 < (monthLengths (isLeap year)).length) :
    daysInMonth year month = (monthLengths (isLeap year))[month - 1] := by
  rw [daysInMonth, if_neg (by omega), List.getD_eq_getElem?_getD, List.getElem?_eq_getElem within,
    Option.getD_some]

/-- No month has more than 31 days. -/
lemma daysInMonth_le (year month : Nat) : daysInMonth year month ≤ 31 := by
  have longest : ∀ leap : Bool, ∀ length ∈ monthLengths leap, length ≤ 31 := by decide
  rw [daysInMonth, List.getD_eq_getElem?_getD]
  split
  · omega
  · rcases found : (monthLengths (isLeap year))[month - 1]? with _ | length
    · exact Nat.zero_le 31
    · exact longest _ _ (List.mem_of_getElem? found)

/-! ## Years -/

/-- A year is a leap year by the Gregorian rule. -/
lemma isLeap_iff : isLeap year = true ↔ year % 4 = 0 ∧ (year % 100 ≠ 0 ∨ year % 400 = 0) := by
  simp [isLeap]

/-- The days before a year, by the four centuries, centuries, four years and years that are over. -/
lemma daysBeforeYear_parts {a b c d : Nat} (hb : b ≤ 3) (hc : c ≤ 24) (hd : d ≤ 3) :
    daysBeforeYear (400 * a + 100 * b + 4 * c + d + 1) =
      146097 * a + 36524 * b + 1461 * c + 365 * d := by
  simp only [daysBeforeYear]
  omega

/-- Only the last one of four years has a day more, unless it ends a century that does not end four
of them. -/
lemma splitYears_parts {a b c d : Nat} (hb : b ≤ 3) (hc : c ≤ 24) (hd : d ≤ 3) (most : r ≤ 365)
    (last : r = 365 → d = 3 ∧ (c = 24 → b = 3)) :
    splitYears (146097 * a + 36524 * b + 1461 * c + 365 * d + r) =
      (400 * a + 100 * b + 4 * c + d + 1, r) := by
  -- of each length of years as many fit as are over, the day of a leap year being their last
  have years : 365 * d + r ≤ 1460 := by omega
  have fours : 1461 * c + (365 * d + r) ≤ 36524 := by omega
  have century : c = 24 ∧ d = 3 ∧ r = 365 → b = 3 := fun h => (last h.2.2).2 h.1
  have whole : 36524 * b + 1461 * c + 365 * d + r < 146097 := by omega
  have n400 : (146097 * a + 36524 * b + 1461 * c + 365 * d + r) / 146097 = a := by omega
  have r400 : (146097 * a + 36524 * b + 1461 * c + 365 * d + r) % 146097 =
      36524 * b + 1461 * c + 365 * d + r := by omega
  have n100 : min ((36524 * b + 1461 * c + 365 * d + r) / 36524) 3 = b := by omega
  have r100 : 36524 * b + 1461 * c + 365 * d + r - b * 36524 = 1461 * c + 365 * d + r := by omega
  have n4 : (1461 * c + 365 * d + r) / 1461 = c := by omega
  have r4 : (1461 * c + 365 * d + r) % 1461 = 365 * d + r := by omega
  have n1 : min ((365 * d + r) / 365) 3 = d := by omega
  simp only [splitYears, n400, r400, n100, r100, n4, r4, n1, Prod.mk.injEq, true_and]
  omega

/-- A day that lies behind the years before it by less than the days of a year falls into the year
behind them. -/
lemma splitYears_daysBeforeYear (positive : 1 ≤ year)
    (inside : r < 365 + (if isLeap year then 1 else 0)) :
    splitYears (daysBeforeYear year + r) = (year, r) := by
  have last : r = 365 → year % 4 = 0 ∧ (year % 100 ≠ 0 ∨ year % 400 = 0) := by
    rintro rfl
    refine isLeap_iff.mp ?_
    by_contra common
    rw [if_neg common] at inside
    omega
  have most : r ≤ 365 := by
    split at inside <;> omega
  -- the years before are four centuries, centuries, four years and single years that are over
  obtain ⟨a, b, c, d, hb, hc, hd, rfl⟩ : ∃ a b c d, b ≤ 3 ∧ c ≤ 24 ∧ d ≤ 3 ∧
      year = 400 * a + 100 * b + 4 * c + d + 1 :=
    ⟨(year - 1) / 400, (year - 1) % 400 / 100, (year - 1) % 100 / 4, (year - 1) % 4,
      by omega, by omega, by omega, by omega⟩
  rw [daysBeforeYear_parts hb hc hd]
  exact splitYears_parts hb hc hd most fun full => by have := last full; omega

/-! ## Dates -/

/-- Whether the numbers of a date name a day of the calendar. -/
lemma isValid_iff : d.isValid = true ↔ 1 ≤ d.year ∧ d.year ≤ 9999 ∧ 1 ≤ d.month ∧ d.month ≤ 12 ∧
    1 ≤ d.day ∧ d.day ≤ daysInMonth d.year d.month := by
  simp [isValid, and_assoc]

/-- A place inside one of several stretches is inside all of them together. -/
lemma sum_take_lt (within : month < lengths.length) (inside : r < lengths[month]) :
    (lengths.take month).sum + r < lengths.sum := by
  have rest := List.sum_take_add_sum_drop lengths month
  rw [List.drop_eq_getElem_cons within, List.sum_cons] at rest
  omega

/-- The date of the number of a date is the date itself. -/
lemma ofDayNumber_dayNumber (valid : d.isValid = true) : ofDayNumber d.dayNumber = d := by
  obtain ⟨year, month, day⟩ := d
  obtain ⟨positive, -, first, last, early, late⟩ := isValid_iff.mp valid
  dsimp only at positive first last early late
  have within : month - 1 < (monthLengths (isLeap year)).length := by
    rw [length_monthLengths]
    omega
  rw [daysInMonth_eq first within] at late
  have inside : day - 1 < (monthLengths (isLeap year))[month - 1] := by omega
  have ofYear := sum_take_lt within inside
  rw [sum_monthLengths] at ofYear
  rw [ofDayNumber, dayNumber, daysBeforeMonth_eq, Nat.add_assoc,
    splitYears_daysBeforeYear positive ofYear]
  dsimp only
  rw [splitMonths_sum within inside]
  simp only [mk.injEq, true_and]
  omega

end ProxyFleet.Date
