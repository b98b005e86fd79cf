import ProxyFleet.Docker.Timestamp
import ProxyFleet.Proofs.Calendar.Iso
import ProxyFleet.Proofs.Calendar.Moment
import ProxyFleet.Proofs.Text.Splitting

/-!
# Timestamps are read exactly

A timestamp is a date, a time of day with as many digits of a second as its writer likes, and an
offset. `Stamp` holds what one is made of, the text that it is and the moment that it denotes. Each
is read as that moment, and nothing that is read is outside the calendar.
-/

namespace ProxyFleet

open Moment (padded digits_padded Digits)

/-! ## Texts of characters -/

namespace Text

variable {c : Char} {cs : List Char}

/-- Characters are taken over one after another. -/
lemma ofChars_append (cs ds : List Char) : ofChars (cs ++ ds) = ofChars cs ++ ofChars ds :=
  List.map_append

/-- A character of the text is one of the characters. -/
lemma mem_ofChars : .char c ∈ ofChars cs ↔ c ∈ cs := by
  rw [ofChars, List.mem_map_of_injective fun _ _ => Symbol.char.inj]

/-- The characters of a text made of characters are those. -/
lemma chars?_ofChars (cs : List Char) : (ofChars cs).chars? = some cs := by
  induction cs with
  | nil => rfl
  | cons c cs ih =>
    rw [chars?, ofChars] at ih ⊢
    rw [List.map_cons, List.mapM_cons, ih]
    rfl

end Text

/-- A text made of characters is separated by none that would need replacing. -/
lemma Moment.separated?_ofChars (cs : List Char) : separated? (.ofChars cs) = some cs := by
  have whole : [7, 8, 10].find? (fun i => (Text.ofChars cs)[i]?.any fun c => c.char?.isNone) =
      none := by
    refine List.find?_eq_none.mpr fun i _ half => ?_
    rw [Text.ofChars, List.getElem?_map, Option.any_map] at half
    obtain ⟨c, -, half⟩ := Option.any_eq_true _ _ |>.mp half
    cases half
  rw [separated?, whole]
  exact Text.chars?_ofChars cs

namespace Docker

/-! ## Cutting fractions -/

section

variable {c : Symbol} {s t ds : Text} {kept : Nat}

/-- What has no point is not cut. -/
lemma cutFractions_append (plain : .char '.' ∉ s) :
    cutFractions none (s ++ t) = s ++ cutFractions none t := by
  induction s with
  | nil => rfl
  | cons c s ih =>
    obtain ⟨first, others⟩ := not_or.mp (mt List.mem_cons.mpr plain)
    rw [List.cons_append, cutFractions, if_neg fun h => first h.1.symm, ih others,
      List.cons_append]

/-- A text without a point is left as it is. -/
lemma cutFractions_eq_self (plain : .char '.' ∉ s) : cutFractions none s = s := by
  have cut := cutFractions_append (t := []) plain
  rwa [List.append_nil, cutFractions, List.append_nil] at cut

/-- Inside a fraction the digits that are still to be kept are kept, and no others. -/
lemma cutFractions_digits (digits : ∀ d ∈ ds, Text.isDecimal d = true)
    (stop : Text.isDecimal c = false) (plain : .char '.' ∉ c :: t) (enough : kept ≤ ds.length) :
    cutFractions (some kept) (ds ++ c :: t) = ds.take kept ++ c :: t := by
  induction ds generalizing kept with
  | nil =>
    obtain ⟨first, others⟩ := not_or.mp (mt List.mem_cons.mpr plain)
    cases Nat.le_zero.mp enough
    rw [List.nil_append, cutFractions, stop, if_neg Bool.false_ne_true,
      if_neg fun h => first h.1.symm, cutFractions_eq_self others]
    rfl
  | cons d ds ih =>
    have ih := fun {kept} => @ih kept fun e mem => digits e (List.mem_cons_of_mem _ mem)
    cases kept with
    | zero =>
      rw [List.cons_append, cutFractions, if_pos (digits d List.mem_cons_self), ih (Nat.zero_le _)]
      rfl
    | succ kept =>
      rw [List.cons_append, cutFractions, ih (Nat.le_of_succ_le_succ enough)]
      rfl

/-- Digits before another character are six digits where there are at least six of them. -/
lemma sixDigits_append (digits : ∀ d ∈ ds, Text.isDecimal d = true)
    (stop : Text.isDecimal c = false) : sixDigits (ds ++ c :: t) = true ↔ 6 ≤ ds.length := by
  constructor
  · intro six
    by_contra short
    have mem : c ∈ (ds ++ c :: t).take 6 := by
      rw [List.take_append, List.mem_append]
      refine .inr ?_
      obtain ⟨k, eq⟩ : ∃ k, 6 - ds.length = k + 1 := ⟨5 - ds.length, by omega⟩
      rw [eq, List.take_succ_cons]
      exact List.mem_cons_self
    have all := List.all_eq_true.mp (Bool.and_eq_true_iff.mp six).2 c mem
    rw [stop] at all
    cases all
  · intro long
    rw [sixDigits, List.take_append_of_le_length long, Bool.and_eq_true_iff]
    exact ⟨by simpa using long,
      List.all_eq_true.mpr fun d mem => digits d (List.mem_of_mem_take mem)⟩

/-- A fraction keeps its first six digits. -/
lemma cutFractions_point (digits : ∀ d ∈ ds, Text.isDecimal d = true)
    (stop : Text.isDecimal c = false) (plain : .char '.' ∉ c :: t) :
    cutFractions none (.char '.' :: (ds ++ c :: t)) = .char '.' :: (ds.take 6 ++ c :: t) := by
  rw [cutFractions]
  -- only a fraction of six digits or more is cut, a shorter one is all of its first six
  by_cases long : 6 ≤ ds.length
  · rw [if_pos ⟨rfl, (sixDigits_append digits stop).mpr long⟩,
      cutFractions_digits digits stop plain long]
  · have short := mt (sixDigits_append (t := t) digits stop).mp long
    have point : .char '.' ∉ ds := fun mem => absurd (digits _ mem) (by decide)
    rw [if_neg fun h => short h.2, cutFractions_append point, cutFractions_eq_self plain,
      List.take_of_length_le (by omega)]

end

/-! ## Timestamps -/

/-- The offset of a timestamp: universal time, or so many hours and minutes behind or ahead of
it. -/
inductive Zone where
  | universal
  | apart (behind : Bool) (hours : Fin 24) (minutes : Fin 60)

namespace Zone

/-- A zone as it is written. -/
def text : Zone → List Char
  | universal => ['Z']
  | apart behind hours minutes =>
    (if behind then '-' else '+') :: (padded 2 hours ++ ':' :: padded 2 minutes)

/-- The distance from universal time in microseconds. -/
def offset : Zone → Int
  | universal => 0
  | apart behind hours minutes =>
    let distance : Int := ((hours * 60 + minutes) * 60000000 : Nat)
    if behind then -distance else distance

end Zone

/-- What a timestamp is made of; its fraction may have any count of digits, also none. -/
structure Stamp where
  date : Date
  hour : Fin 24
  minute : Fin 60
  second : Fin 60
  fraction : List Char
  zone : Zone
  valid : date.isValid = true
  digits : ∀ d ∈ fraction, Moment.isDigit d = true

namespace Stamp

/-- A timestamp up to its fraction. -/
def front (s : Stamp) : List Char :=
  padded 4 s.date.year ++ '-' :: (padded 2 s.date.month ++ '-' :: (padded 2 s.date.day ++
    'T' :: (padded 2 s.hour ++ ':' :: (padded 2 s.minute ++ ':' :: padded 2 s.second))))

/-- The point and the digits behind it. -/
def point (s : Stamp) : List Char := if s.fraction = [] then [] else '.' :: s.fraction

/-- The point and those of the digits behind it that are read. -/
def kept (s : Stamp) : List Char := if s.fraction = [] then [] else '.' :: s.fraction.take 6

/-- A stamp as it is written. -/
def text (s : Stamp) : Text := .ofChars (s.front ++ (s.point ++ s.zone.text))

/-- The moment of a timestamp. Of its fraction the whole microseconds count. -/
def moment (s : Stamp) : Moment where
  date := s.date
  hour := s.hour
  minute := s.minute
  second := s.second
  microsecond := Nat.ofDigitChars 10 s.fraction 0 * 10 ^ 6 / 10 ^ s.fraction.length
  offset := some s.zone.offset

end Stamp

/-! ## Characters of timestamps -/

section

variable {c : Char} {s : Stamp} {behind : Bool} {hours : Fin 24} {minutes : Fin 60}

/-- The parts of a date are written with four, two and two digits. -/
lemma Stamp.digits_date (s : Stamp) : Digits 4 s.date.year (padded 4 s.date.year) ∧
    Digits 2 s.date.month (padded 2 s.date.month) ∧ Digits 2 s.date.day (padded 2 s.date.day) := by
  obtain ⟨-, year, -, month, -, day⟩ := Date.isValid_iff.mp s.valid
  have short := Date.daysInMonth_le s.date.year s.date.month
  exact ⟨digits_padded (by decide) (by omega), digits_padded (by decide) (by omega),
    digits_padded (by decide) (by omega)⟩

/-- An hour is written with two digits. -/
lemma digits_hour (hour : Fin 24) : Digits 2 hour (padded 2 hour) :=
  digits_padded (by decide) (by omega)

/-- A minute or a second is written with two digits. -/
lemma digits_sixtieth (sixtieth : Fin 60) : Digits 2 sixtieth (padded 2 sixtieth) :=
  digits_padded (by decide) (by omega)

/-- The front of a stamp has digits, dashes, the letter T and colons. -/
lemma Stamp.mem_front (mem : c ∈ s.front) :
    Moment.isDigit c = true ∨ c = '-' ∨ c = 'T' ∨ c = ':' := by
  obtain ⟨year, month, day⟩ := s.digits_date
  have hour := digits_hour s.hour
  have minute := digits_sixtieth s.minute
  have second := digits_sixtieth s.second
  simp only [front, List.mem_append, List.mem_cons] at mem
  rcases mem with mem | rfl | mem | rfl | mem | rfl | mem | rfl | mem | rfl | mem
  · exact .inl (year.isDigit c mem)
  · exact .inr (.inl rfl)
  · exact .inl (month.isDigit c mem)
  · exact .inr (.inl rfl)
  · exact .inl (day.isDigit c mem)
  · exact .inr (.inr (.inl rfl))
  · exact .inl (hour.isDigit c mem)
  · exact .inr (.inr (.inr rfl))
  · exact .inl (minute.isDigit c mem)
  · exact .inr (.inr (.inr rfl))
  · exact .inl (second.isDigit c mem)

/-- The fraction of a stamp has digits and a point. -/
lemma Stamp.mem_point (mem : c ∈ s.point) : Moment.isDigit c = true ∨ c = '.' := by
  rw [point] at mem
  split at mem
  · cases mem
  · exact (List.mem_cons.mp mem).symm.imp_left (s.digits c)

/-- A zone apart from universal time has digits, signs and a colon. -/
lemma Zone.mem_text (mem : c ∈ (apart behind hours minutes).text) :
    Moment.isDigit c = true ∨ c = '+' ∨ c = '-' ∨ c = ':' := by
  simp only [text, List.mem_append, List.mem_cons] at mem
  rcases mem with rfl | mem | rfl | mem
  · cases behind
    · exact .inr (.inl rfl)
    · exact .inr (.inr (.inl rfl))
  · exact .inl ((digits_hour hours).isDigit c mem)
  · exact .inr (.inr (.inr rfl))
  · exact .inl ((digits_sixtieth minutes).isDigit c mem)

/-! ## Reading timestamps -/

/-- Universal time comes to be written as no distance ahead of itself. -/
lemma Zone.exists_apart (z : Zone) : ∃ behind hours minutes,
    Text.replace 'Z' "+00:00" (.ofChars z.text) = .ofChars (apart behind hours minutes).text ∧
      z.offset = (apart behind hours minutes).offset := by
  cases z with
  | universal => exact ⟨false, 0, 0, by decide, rfl⟩
  | apart behind hours minutes =>
    refine ⟨behind, hours, minutes, Text.replace_eq_self ?_, rfl⟩
    rw [Text.mem_ofChars]
    intro mem
    exact absurd (mem_text mem) (by decide)

/-- The fraction of a timestamp is cut before the zone that follows it. -/
lemma Stamp.cutFractions_point (s : Stamp) (behind : Bool) (hours : Fin 24) (minutes : Fin 60) :
    cutFractions none (.ofChars (s.point ++ (Zone.apart behind hours minutes).text)) =
      .ofChars (s.kept ++ (Zone.apart behind hours minutes).text) := by
  have zone : .char '.' ∉ Text.ofChars (Zone.apart behind hours minutes).text := by
    rw [Text.mem_ofChars]
    exact fun mem => absurd (Zone.mem_text mem) (by decide)
  have digits : ∀ d ∈ Text.ofChars s.fraction, Text.isDecimal d = true := by
    intro d mem
    obtain ⟨c, inside, rfl⟩ := List.mem_map.mp mem
    rw [Text.isDecimal, Text.digitValue?_digit (Moment.isDigit_iff.mp (s.digits c inside))]
    rfl
  have stop : Text.isDecimal (.char (if behind then '-' else '+')) = false := by
    cases behind <;> decide
  unfold point kept
  split
  · exact cutFractions_eq_self zone
  · have cut := Docker.cutFractions_point digits stop zone
    simpa [Text.ofChars, Zone.text, List.map_take] using cut

/-- A timestamp as it is read: its zone in hours and minutes, its fraction cut to six digits. -/
lemma Stamp.cutFractions_text (zone : Text.replace 'Z' "+00:00" (.ofChars s.zone.text) =
      .ofChars (Zone.apart behind hours minutes).text) :
    cutFractions none (Text.replace 'Z' "+00:00" s.text) =
      .ofChars (s.front ++ (s.kept ++ (Zone.apart behind hours minutes).text)) := by
  have universal : .char 'Z' ∉ Text.ofChars (s.front ++ s.point) := by
    rw [Text.mem_ofChars, List.mem_append]
    rintro (mem | mem)
    · exact absurd (mem_front mem) (by decide)
    · exact absurd (mem_point mem) (by decide)
  have point : .char '.' ∉ Text.ofChars s.front := by
    rw [Text.mem_ofChars]
    exact fun mem => absurd (mem_front mem) (by decide)
  rw [text, ← List.append_assoc, Text.ofChars_append, Text.replace_append,
    Text.replace_eq_self universal, zone, ← Text.ofChars_append, List.append_assoc,
    Text.ofChars_append, cutFractions_append point, cutFractions_point, ← Text.ofChars_append]

/-- What is kept of a stamp is read as its moment, with any text for its zone that means the
same. -/
lemma Stamp.readIso? (s : Stamp) (zone : s.zone.offset = (Zone.apart behind hours minutes).offset) :
    Moment.readIso? (s.front ++ (s.kept ++ (Zone.apart behind hours minutes).text)) =
      some s.moment := by
  obtain ⟨year, month, day⟩ := s.digits_date
  have signed : (if behind then '-' else '+') = '+' ∨ (if behind then '-' else '+') = '-' := by
    cases behind
    · exact .inl rfl
    · exact .inr rfl
  have time := Moment.readTime?_seconds s.date (digits_hour s.hour) (digits_sixtieth s.minute)
    (digits_sixtieth s.second) (Moment.fraction_take s.digits) signed (digits_hour hours)
    (digits_sixtieth minutes)
  have read := Moment.readIso?_dashed year month day 'T' _ |>.trans time
  rw [moment, zone, kept]
  -- both sides are the same characters once nothing but their grouping differs
  simp only [front, Zone.text, List.append_assoc, List.cons_append] at read ⊢
  rw [read]
  cases behind <;> rfl

/-- The moment of a stamp is a valid one. -/
lemma Stamp.isValid_moment (s : Stamp) : s.moment.isValid = true := by
  have micros := Moment.ofDigitChars_lt s.digits
  refine Moment.isValid_iff.mpr ⟨s.valid, Nat.le_of_lt_succ s.hour.isLt,
    Nat.le_of_lt_succ s.minute.isLt, Nat.le_of_lt_succ s.second.isLt, Nat.le_of_lt_succ ?_, ?_⟩
  · exact Nat.div_lt_of_lt_mul (Nat.mul_lt_mul_of_pos_right micros (by decide))
  · rintro o eq
    cases eq
    rcases s.zone with _ | ⟨behind, hours, minutes⟩
    · decide
    · have := hours.isLt
      have := minutes.isLt
      simp only [Zone.offset, Moment.dayLength]
      split <;> omega

/-- Every timestamp is read as the moment that it denotes. -/
lemma Stamp.readTimestamp?_text (s : Stamp) : readTimestamp? (.str s.text) = some s.moment := by
  obtain ⟨behind, hours, minutes, text, offset⟩ := s.zone.exists_apart
  have some : s.text.isEmpty = false := by
    rw [Stamp.text, front, List.isEmpty_eq_false_iff]
    simp [Text.ofChars]
  rw [readTimestamp?, some, if_neg Bool.false_ne_true, s.cutFractions_text text, Moment.ofIso?,
    Moment.separated?_ofChars, Option.bind_eq_bind, Option.bind_some, s.readIso? offset,
    Option.bind_eq_bind, Option.bind_some, if_pos s.isValid_moment]
  rfl

/-- What is read is a text, and a moment of the calendar. -/
lemma readTimestamp?_eq_some {j : Json} {m : Moment} (h : readTimestamp? j = some m) :
    m.isValid = true ∧ ∃ t, j = .str t ∧ t ≠ [] := by
  unfold readTimestamp? at h
  split at h
  case h_1 t =>
    split at h
    case isTrue => cases h
    case isFalse some =>
      rw [Moment.ofIso?, Option.bind_eq_bind, Option.bind_eq_some_iff] at h
      obtain ⟨cs, -, h⟩ := h
      obtain ⟨read, -, h⟩ := Option.bind_eq_some_iff.mp h
      split at h
      case isTrue valid =>
        cases h
        exact ⟨valid, t, rfl, fun none => some (none ▸ rfl)⟩
      case isFalse => cases h
  case h_2 => cases h

end

/-- Every timestamp is read as the moment that it denotes, its fraction cut to whole microseconds.
Of all other values some texts may be read as moments, but only as ones of the calendar. -/
theorem timestamp_read_exactly :
    (∀ s : Stamp, readTimestamp? (.str s.text) = some s.moment) ∧
      ∀ j, readTimestamp? j = none ∨ ∃ m, readTimestamp? j = some m ∧ m.isValid = true ∧
        ∃ t, j = .str t ∧ t ≠ [] := by
  refine ⟨Stamp.readTimestamp?_text, fun j => ?_⟩
  rcases read : readTimestamp? j with _ | m
  · exact .inl rfl
  · exact .inr ⟨m, rfl, readTimestamp?_eq_some read⟩

end Docker

end ProxyFleet
