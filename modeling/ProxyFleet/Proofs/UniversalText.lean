import ProxyFleet.Docker.Document
import ProxyFleet.Proofs.Docker.Timestamp
import ProxyFleet.Proxy

/-!
# Dates as clients see them

Clients see the date of a proxy in universal time. What they see is a timestamp, so it is read back
as the moment that it was written from, and only dates of one instant look the same.
-/

namespace ProxyFleet

open Moment (padded digits_padded)
open Docker (Stamp readTimestamp?)

variable {m n u v : Moment} {p q : UsersProxy}

/-! ## Moments of universal time as timestamps -/

/-- The timestamp of a moment of universal time. -/
def Docker.Stamp.ofUniversal (u : Moment) (valid : u.isValid = true) : Stamp where
  date := u.date
  hour := ⟨u.hour, Nat.lt_succ_of_le (Moment.isValid_iff.mp valid).2.1⟩
  minute := ⟨u.minute, Nat.lt_succ_of_le (Moment.isValid_iff.mp valid).2.2.1⟩
  second := ⟨u.second, Nat.lt_succ_of_le (Moment.isValid_iff.mp valid).2.2.2.1⟩
  fraction := if u.microsecond = 0 then [] else padded 6 u.microsecond
  zone := .universal
  valid := (Moment.isValid_iff.mp valid).1
  digits := by
    have micros := (Moment.isValid_iff.mp valid).2.2.2.2.1
    split
    · exact fun _ mem => absurd mem List.not_mem_nil
    · exact (digits_padded (by decide) (by omega)).isDigit

/-- A moment of universal time is written as its local text and a Z. -/
lemma text_ofUniversal (valid : u.isValid = true) :
    (Stamp.ofUniversal u valid).text = Text.ofChars u.localText ++ "Z" := by
  have micros := (Moment.isValid_iff.mp valid).2.2.2.2.1
  have point : (Stamp.ofUniversal u valid).point = Moment.fractionText u.microsecond := by
    by_cases zero : u.microsecond = 0
    · simp [Stamp.point, Stamp.ofUniversal, Moment.fractionText, zero]
    · have wide : (padded 6 u.microsecond).length = 6 :=
        (digits_padded (by decide) (by omega)).length
      have some : padded 6 u.microsecond ≠ [] := fun none => by
        rw [none] at wide
        cases wide
      simp [Stamp.point, Stamp.ofUniversal, Moment.fractionText, zero, some]
  rw [Stamp.text, point]
  simp [Text.ofChars, Text.ofString, Moment.localText, Stamp.front, Stamp.ofUniversal,
    Docker.Zone.text]

/-- A moment of universal time is that of its stamp. -/
lemma moment_ofUniversal (valid : u.isValid = true) (universal : u.offset = some 0) :
    (Stamp.ofUniversal u valid).moment = u := by
  have micros := (Moment.isValid_iff.mp valid).2.2.2.2.1
  have fraction : Nat.ofDigitChars 10 (Stamp.ofUniversal u valid).fraction 0 * 10 ^ 6 /
      10 ^ (Stamp.ofUniversal u valid).fraction.length = u.microsecond := by
    by_cases zero : u.microsecond = 0
    · simp [Stamp.ofUniversal, zero]
    · have digits : Moment.Digits 6 u.microsecond (padded 6 u.microsecond) :=
        digits_padded (by decide) (by omega)
      simp [Stamp.ofUniversal, zero, digits.length, digits.value]
  rw [Stamp.moment, fraction]
  obtain ⟨_, _, _, _, _, _⟩ := u
  cases universal
  rfl

/-- A moment of universal time is read back from its stamp. -/
lemma readTimestamp?_ofUniversal (valid : u.isValid = true) (universal : u.offset = some 0) :
    readTimestamp? (.str (Stamp.ofUniversal u valid).text) = some u := by
  rw [Stamp.readTimestamp?_text, moment_ofUniversal valid universal]

/-- Such a timestamp ends in its only `Z` and has no other sign of an offset. -/
lemma text_universal {s : Stamp} (universal : s.zone = .universal) :
    (∃ body, s.text = body ++ "Z" ∧ .char 'Z' ∉ body) ∧ .char '+' ∉ s.text := by
  have ending : s.text = Text.ofChars (s.front ++ s.point) ++ "Z" := by
    rw [Stamp.text, universal]
    simp [Text.ofChars, Text.ofString, Docker.Zone.text]
  have plain : ∀ c ∈ s.front ++ s.point, c ≠ 'Z' ∧ c ≠ '+' := by
    intro c mem
    rcases List.mem_append.mp mem with mem | mem
    · constructor <;> rintro rfl <;> exact absurd (Stamp.mem_front mem) (by decide)
    · constructor <;> rintro rfl <;> exact absurd (Stamp.mem_point mem) (by decide)
  refine ⟨⟨_, ending, fun mem => (plain _ (Text.mem_ofChars.mp mem)).1 rfl⟩, fun mem => ?_⟩
  rw [ending, List.mem_append] at mem
  rcases mem with mem | mem
  · exact (plain _ (Text.mem_ofChars.mp mem)).2 rfl
  · exact absurd mem (by decide)

/-! ## Moments in universal time -/

/-- Whether the second of two moments is the first one in universal time. -/
structure UniversalOf (m u : Moment) : Prop where
  isValid : u.isValid = true
  universal : u.offset = some 0
  instant : u.instant = m.instant

/-- Whether a moment is one of the calendar and universal time leaves it in the calendar's years. -/
def Moment.HasUniversal (m : Moment) : Prop :=
  m.isValid = true ∧ (m.offset = none ∨ ∃ u, UniversalOf m u)

namespace UniversalOf

/-- The moment in universal time is the one that is found. -/
lemma toUniversal? (h : UniversalOf m u) : m.toUniversal? = some u := by
  rw [Moment.toUniversal?, ← h.instant, Moment.ofInstant?_instant h.isValid h.universal]

/-- Moments of one instant are the same one in universal time. -/
lemma eq_iff (hm : UniversalOf m u) (hn : UniversalOf n v) : u = v ↔ m.instant = n.instant := by
  rw [← hm.instant, ← hn.instant]
  refine ⟨congrArg Moment.instant, fun same => Option.some.inj ?_⟩
  rw [← Moment.ofInstant?_instant hm.isValid hm.universal, same,
    Moment.ofInstant?_instant hn.isValid hn.universal]

/-- The moment in universal time has the microseconds of the instant. -/
lemma microsecond_eq (h : UniversalOf m u) : (u.microsecond : Int) = m.instant % 1000000 := by
  have micros := (Moment.isValid_iff.mp h.isValid).2.2.2.2.1
  rw [← h.instant, Moment.instant, h.universal]
  simp only [Moment.localTime, Moment.timeOfDay, Moment.dayLength, Option.getD_some]
  omega

/-- An offset of whole seconds leaves the microseconds as they are. -/
lemma microsecond_of_dvd (h : UniversalOf m u) (valid : m.isValid = true)
    (whole : 1000000 ∣ m.offset.getD 0) : u.microsecond = m.microsecond := by
  have micros := (Moment.isValid_iff.mp valid).2.2.2.2.1
  have eq := h.microsecond_eq
  simp only [Moment.instant, Moment.localTime, Moment.timeOfDay, Moment.dayLength] at eq
  omega

end UniversalOf

/-! ## Dates that are shown -/

/-- The text of a moment is that of the same moment in universal time, marked as such. -/
lemma Moment.HasUniversal.toUniversalText (h : m.HasUniversal) :
    ∃ u, UniversalOf m u ∧ m.toUniversalText = .ok (Text.ofChars u.localText ++ "Z") := by
  obtain ⟨valid, range⟩ := h
  rcases offset : m.offset with _ | o
  · -- without an offset the moment is the one of universal time already
    obtain ⟨date, hour, minute, second, microsecond⟩ := Moment.isValid_iff.mp valid
    refine ⟨{ m with offset := some 0 }, ⟨?_, rfl, ?_⟩, ?_⟩
    · refine Moment.isValid_iff.mpr ⟨date, hour, minute, second, microsecond.1, ?_⟩
      rintro o eq
      cases eq
      decide
    · rw [Moment.instant, Moment.instant, offset]
      rfl
    · rw [Moment.toUniversalText, offset, Moment.toIso, offset]
      simp [Moment.localText]
  · obtain ⟨u, h⟩ := range.resolve_left (offset ▸ Option.some_ne_none o)
    refine ⟨u, h, ?_⟩
    rw [Moment.toUniversalText, offset]
    dsimp only
    rw [h.toUniversal?]

/-- The date that clients see of a proxy. -/
def UsersProxy.shownDate (p : UsersProxy) : Except Failure Json :=
  p.summary >>= Json.require "insert_date"

/-- The date that clients see of a proxy is the timestamp of its moment in universal time. -/
lemma UsersProxy.exists_shownDate (date : p.proxy.insertDate = some m) (h : m.HasUniversal) :
    ∃ u, ∃ universal : UniversalOf m u,
      p.shownDate = .ok (.str (Stamp.ofUniversal u universal.isValid).text) := by
  obtain ⟨u, universal, text⟩ := h.toUniversalText
  refine ⟨u, universal, ?_⟩
  rw [shownDate, summary, date, text_ofUniversal]
  dsimp only
  rw [text]
  rfl

/-- The date that clients see of a proxy is a text of universal time with one `Z`, at its end. It
is read back as the same instant in universal time, microseconds included, so that proxies show the
same date exactly when their dates are of one instant. -/
theorem shown_dates_denote_instants (hp : p.proxy.insertDate = some m)
    (hq : q.proxy.insertDate = some n) (hm : m.HasUniversal) (hn : n.HasUniversal) :
    (∃ s, p.shownDate = .ok (.str s) ∧ (∃ body, s = body ++ "Z" ∧ .char 'Z' ∉ body) ∧
      .char '+' ∉ s ∧ ∃ u, readTimestamp? (.str s) = some u ∧ UniversalOf m u ∧
        (u.microsecond : Int) = m.instant % 1000000 ∧
        (1000000 ∣ m.offset.getD 0 → u.microsecond = m.microsecond)) ∧
      (p.shownDate = q.shownDate ↔ m.instant = n.instant) := by
  obtain ⟨u, ofM, shown⟩ := UsersProxy.exists_shownDate hp hm
  obtain ⟨v, ofN, shown'⟩ := UsersProxy.exists_shownDate hq hn
  have read := readTimestamp?_ofUniversal ofM.isValid ofM.universal
  have read' := readTimestamp?_ofUniversal ofN.isValid ofN.universal
  constructor
  · obtain ⟨ending, plus⟩ := text_universal (s := .ofUniversal u ofM.isValid) rfl
    exact ⟨_, shown, ending, plus, u, read, ofM, ofM.microsecond_eq, ofM.microsecond_of_dvd hm.1⟩
  · rw [shown, shown', ← ofM.eq_iff ofN]
    constructor
    · intro same
      -- one text cannot be read as two moments
      have texts := Json.str.inj (Except.ok.inj same)
      rw [texts, read'] at read
      exact (Option.some.inj read).symm
    · rintro rfl
      rfl

/-- A proxy of the given date. -/
def datedProxy (m : Moment) : UsersProxy := ⟨⟨"p", "0.0.0.0", 3128, [], some m⟩, none⟩

/-- Late on a leap day, an hour and a half and some seconds behind universal time. -/
def leapNight : Moment := ⟨⟨2024, 2, 29⟩, 23, 30, 0, 500000, some (-5415000000)⟩

/-- The same instant in universal time, with no offset noted. -/
def marchMorning : Moment := ⟨⟨2024, 3, 1⟩, 1, 0, 15, 500000, none⟩

/-- In universal time the leap day is over, so both dates are shown as one of March. -/
theorem leap_night_shown_as_march :
    (∃ s, (datedProxy leapNight).shownDate = .ok (.str s) ∧ ∃ u, readTimestamp? (.str s) = some u ∧
      UniversalOf leapNight u ∧ u.microsecond = 500000) ∧
      (datedProxy leapNight).shownDate = (datedProxy marchMorning).shownDate := by
  have night : leapNight.HasUniversal :=
    ⟨by decide, .inr ⟨{ marchMorning with offset := some 0 }, by decide, rfl, by decide⟩⟩
  have morning : marchMorning.HasUniversal := ⟨by decide, .inl rfl⟩
  obtain ⟨⟨s, shown, -, -, u, read, universal, -, micros⟩, same⟩ :=
    shown_dates_denote_instants (p := datedProxy leapNight) (q := datedProxy marchMorning) rfl rfl
      night morning
  exact ⟨⟨s, shown, u, read, universal, micros (by decide)⟩, same.mpr (by decide)⟩

/-- The beginning of a year, a second and a microsecond ahead of universal time. -/
def newYear : Moment := ⟨⟨2024, 1, 1⟩, 0, 0, 0, 0, some 1000001⟩

/-- An offset that is no whole number of seconds does not leave the microseconds of a date as they
are. -/
theorem new_year_microseconds_changed : newYear.HasUniversal ∧
    ∃ s u, (datedProxy newYear).shownDate = .ok (.str s) ∧ readTimestamp? (.str s) = some u ∧
      u.microsecond ≠ newYear.microsecond := by
  have universal : UniversalOf newYear ⟨⟨2023, 12, 31⟩, 23, 59, 58, 999999, some 0⟩ :=
    ⟨by decide, rfl, by decide⟩
  refine ⟨⟨by decide, .inr ⟨_, universal⟩⟩, "2023-12-31T23:59:58.999999Z", _, rfl, rfl, by decide⟩

end ProxyFleet
