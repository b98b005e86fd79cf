import ProxyFleet.Calendar.Moment
import ProxyFleet.Proofs.Calendar.Date

/-!
# Moments and their instants

In universal time there is one moment at an instant: the date is given by the whole days, the time
of day by what is left.
-/

namespace ProxyFleet.Moment

variable {m u v : Moment}

/-- A moment is valid when its date is, its clock stays below a day and its offset, too. -/
lemma isValid_iff : m.isValid = true ↔ m.date.isValid = true ∧ m.hour ≤ 23 ∧ m.minute ≤ 59 ∧
    m.second ≤ 59 ∧ m.microsecond ≤ 999999 ∧ ∀ o, m.offset = some o → o.natAbs < dayLength := by
  obtain ⟨date, hour, minute, second, microsecond, offset⟩ := m
  cases offset <;> simp [isValid, and_assoc]

/-- The time of day is less than a day. -/
lemma timeOfDay_lt (valid : m.isValid = true) : m.timeOfDay < dayLength := by
  obtain ⟨-, hour, minute, second, microsecond, -⟩ := isValid_iff.mp valid
  simp only [timeOfDay, dayLength]
  omega

/-- The moment at the instant of a moment of universal time is that moment. -/
lemma ofInstant?_instant (valid : u.isValid = true) (universal : u.offset = some 0) :
    ofInstant? u.instant = some u := by
  have short := timeOfDay_lt valid
  obtain ⟨date, hour, minute, second, microsecond, -⟩ := isValid_iff.mp valid
  have instant : u.instant = ((u.date.dayNumber * dayLength + u.timeOfDay : Nat) : Int) := by
    simp [Moment.instant, localTime, universal]
  have days : (u.date.dayNumber * dayLength + u.timeOfDay) / dayLength = u.date.dayNumber := by
    simp only [dayLength] at short ⊢
    omega
  have rest : (u.date.dayNumber * dayLength + u.timeOfDay) % dayLength = u.timeOfDay := by
    simp only [dayLength] at short ⊢
    omega
  have year : ¬ 9999 < u.date.year := by
    have := (Date.isValid_iff.mp date).2.1
    omega
  rw [ofInstant?, instant, if_neg (by omega)]
  dsimp only
  rw [Int.toNat_natCast, days, rest, Date.ofDayNumber_dayNumber date, if_neg year]
  obtain ⟨_, _, _, _, _, _⟩ := u
  cases universal
  dsimp only [timeOfDay] at hour minute second microsecond ⊢
  simp only [Option.some.injEq, mk.injEq, true_and, and_true]
  omega

end ProxyFleet.Moment
