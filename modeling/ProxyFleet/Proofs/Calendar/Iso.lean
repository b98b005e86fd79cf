import Mathlib.Data.List.Basic
import Mathlib.Data.List.GetD
import Mathlib.Data.Nat.Digits.Defs
import ProxyFleet.Calendar.Iso
import ProxyFleet.Proofs.Text.Numeral

/-!
# Reading points in time

A date, a clock reading with or without a fraction, and an offset are read as what they write, when
they stand in the order and with the separators of RFC 3339.
-/

namespace ProxyFleet.Moment

variable {c d next sign : Char} {ds rest region tail yyyy mm dd hh ss fraction : List Char}
  {ahead past : List Char} {width n year month day hour minute second micros parts : Nat}
  {hours minutes : Nat} {date : Date}

/-! ## Digits -/

/-- Whether characters are so many digits and write a number. -/
structure Digits (width n : Nat) (ds : List Char) : Prop where
  length : ds.length = width
  isDigit : ∀ d ∈ ds, isDigit d = true
  value : Nat.ofDigitChars 10 ds 0 = n

/-- The digits that dates are written in are the ASCII digits. -/
lemma isDigit_iff : isDigit c = true ↔ c.isDigit = true := by
  rw [Char.isDigit_iff_toNat]
  show (decide (48 ≤ c.toNat) && decide (c.toNat ≤ 57)) = true ↔ _
  rw [Bool.and_eq_true, decide_eq_true_iff, decide_eq_true_iff]
  rfl

/-- A digit is not what is none. -/
lemma ne_of_isDigit (digit : isDigit c = true) (other : isDigit d = false) : c ≠ d := by
  rintro rfl
  exact Bool.noConfusion (digit.symm.trans other)

/-- A number with zeros in front is as wide as it has to be. -/
lemma digits_padded (positive : 0 < width) (fits : n < 10 ^ width) :
    Digits width n (padded width n) := by
  have short := Nat.toDigits_length 10 n width positive fits
  refine ⟨?_, fun d mem => ?_, ?_⟩
  · rw [padded, List.length_append, List.length_replicate]
    omega
  · rcases List.mem_append.mp mem with mem | mem
    · rw [List.eq_of_mem_replicate mem]
      rfl
    · exact isDigit_iff.mpr (Text.isDigit_of_mem mem)
  · rw [padded, Nat.ofDigitChars_append, Nat.ofDigitChars_replicate_zero, Nat.mul_zero,
      Nat.ofDigitChars_ten_toDigits]

/-- A number of some width is read off the front of what follows it. -/
lemma Digits.takeNumber? (h : Digits width n ds) (rest : List Char) :
    takeNumber? width (ds ++ rest) = some (n, rest) := by
  obtain ⟨rfl, digits, rfl⟩ := h
  have all : ds.all Moment.isDigit = true := List.all_eq_true.mpr digits
  rw [Moment.takeNumber?, List.take_left, List.drop_left, if_pos ⟨rfl, all⟩,
    Nat.ofDigitChars_eq_foldl]
  rfl

/-- A number of some width is read when nothing follows it. -/
lemma Digits.takeNumber?_self (h : Digits width n ds) :
    Moment.takeNumber? width ds = some (n, []) := by
  simpa using h.takeNumber? []

/-- Digits write a number below the power of ten of their count. -/
lemma ofDigitChars_lt (digits : ∀ d ∈ ds, isDigit d = true) :
    Nat.ofDigitChars 10 ds 0 < 10 ^ ds.length := by
  induction ds with
  | nil => exact Nat.one_pos
  | cons d ds ih =>
    have small : 10 * 0 + (d.toNat - '0'.toNat) ≤ 9 := by
      have high := (Char.isDigit_iff_toNat.mp (isDigit_iff.mp (digits d List.mem_cons_self))).2
      have zero : '0'.toNat = 48 := rfl
      have nine : '9'.toNat = 57 := rfl
      omega
    have ih := ih fun e mem => digits e (List.mem_cons_of_mem _ mem)
    have most := Nat.mul_le_mul_left (10 ^ ds.length) small
    rw [Nat.ofDigitChars_cons, Nat.ofDigitChars_eq_ofDigitChars_zero, List.length_cons,
      Nat.pow_succ]
    omega

/-- The first digits write what is left of the number when the others are divided off. -/
lemma ofDigitChars_take (digits : ∀ d ∈ ds, isDigit d = true) (k : Nat) :
    Nat.ofDigitChars 10 (ds.take k) 0 = Nat.ofDigitChars 10 ds 0 / 10 ^ (ds.length - k) := by
  have rest : Nat.ofDigitChars 10 (ds.drop k) 0 < 10 ^ (ds.drop k).length :=
    ofDigitChars_lt fun d mem => digits d (List.mem_of_mem_drop mem)
  have whole : Nat.ofDigitChars 10 ds 0 =
      10 ^ (ds.length - k) * Nat.ofDigitChars 10 (ds.take k) 0 +
        Nat.ofDigitChars 10 (ds.drop k) 0 := by
    rw [← List.length_drop, ← Nat.ofDigitChars_eq_ofDigitChars_zero, ← Nat.ofDigitChars_append,
      List.take_append_drop]
  rw [List.length_drop] at rest
  rw [whole, Nat.mul_add_div (by positivity), Nat.div_eq_of_lt rest, Nat.add_zero]

/-! ## Dates -/

/-- A date with dashes takes ten characters. -/
lemma dateLength?_dashed (y : Digits 4 year yyyy) (m : Digits 2 month mm) (d : Digits 2 day dd)
    (time : List Char) :
    dateLength? (yyyy ++ '-' :: (mm ++ '-' :: (dd ++ time))) = some 10 := by
  have dash : charAt (yyyy ++ '-' :: (mm ++ '-' :: (dd ++ time))) 4 = '-' := by
    rw [charAt, List.getD_append_right _ _ _ _ y.length.le, y.length]
    rfl
  have week : charAt (yyyy ++ '-' :: (mm ++ '-' :: (dd ++ time))) 5 ≠ 'W' := by
    obtain ⟨a, b, rfl⟩ := List.length_eq_two.mp m.length
    rw [charAt, List.getD_append_right _ _ _ _ (by rw [y.length]; decide), y.length]
    exact ne_of_isDigit (m.isDigit a List.mem_cons_self) rfl
  have long : 7 < (yyyy ++ '-' :: (mm ++ '-' :: (dd ++ time))).length := by
    simp only [List.length_append, List.length_cons, y.length, m.length, d.length]
    omega
  rw [dateLength?, if_neg (by omega), if_neg (by omega), if_pos dash, if_neg week]

/-- A date with dashes is read from its three numbers. -/
lemma readDate?_dashed (y : Digits 4 year yyyy) (m : Digits 2 month mm) (d : Digits 2 day dd) :
    readDate? (yyyy ++ '-' :: (mm ++ '-' :: dd)) = some ⟨year, month, day⟩ := by
  rw [readDate?, y.takeNumber?]
  dsimp only [Option.bind_eq_bind, Option.bind_some]
  split
  case h_1 rest eq =>
    -- a week would begin with its letter, the month begins with a digit
    obtain ⟨a, b, rfl⟩ := List.length_eq_two.mp m.length
    cases eq
    exact absurd rfl (ne_of_isDigit (m.isDigit 'W' List.mem_cons_self) rfl)
  case h_2 =>
    show readMonthDay? year true (mm ++ '-' :: dd) = _
    rw [readMonthDay?, m.takeNumber?]
    show (takeNumber? 2 dd).bind _ = _
    rw [d.takeNumber?_self]
    rfl

/-- A date with dashes is taken off the text together with the character behind it. -/
lemma readIso?_dashed (y : Digits 4 year yyyy) (m : Digits 2 month mm) (d : Digits 2 day dd)
    (c : Char) (time : List Char) :
    readIso? (yyyy ++ '-' :: (mm ++ '-' :: (dd ++ c :: time))) =
      readTime? ⟨year, month, day⟩ time := by
  have width : (yyyy ++ '-' :: (mm ++ '-' :: dd)).length = 10 := by
    simp only [List.length_append, List.length_cons, y.length, m.length, d.length]
  have split : yyyy ++ '-' :: (mm ++ '-' :: (dd ++ c :: time)) =
      (yyyy ++ '-' :: (mm ++ '-' :: dd)) ++ c :: time := by simp
  rw [readIso?, dateLength?_dashed y m d, Option.bind_eq_bind, Option.bind_some, split,
    List.take_left' width, List.drop_left' width, readDate?_dashed y m d]
  rfl

/-! ## Clocks -/

/-- What stands behind the last part of a clock reading, and the microseconds that it writes:
nothing, or a point and at most six digits. -/
inductive Fraction : Nat → List Char → Prop where
  | none : Fraction 0 []
  | point {width n : Nat} {ds : List Char} : 0 < width → width ≤ 6 → Digits width n ds →
      Fraction (n * 10 ^ (6 - width)) ('.' :: ds)

/-- A fraction that is cut to six digits counts the whole microseconds of what it was. -/
lemma fraction_take (digits : ∀ d ∈ ds, isDigit d = true) :
    Fraction (Nat.ofDigitChars 10 ds 0 * 10 ^ 6 / 10 ^ ds.length)
      (if ds = [] then [] else '.' :: ds.take 6) := by
  by_cases none : ds = []
  · rw [if_pos none, none]
    exact .none
  · have some := List.length_pos_iff.mpr none
    have width : (ds.take 6).length = min 6 ds.length := List.length_take
    have value : Nat.ofDigitChars 10 ds 0 * 10 ^ 6 / 10 ^ ds.length =
        Nat.ofDigitChars 10 (ds.take 6) 0 * 10 ^ (6 - (ds.take 6).length) := by
      rcases Nat.le_total ds.length 6 with short | long
      · have all : ds.take 6 = ds := List.take_of_length_le short
        rw [all, Nat.mul_div_assoc _ (Nat.pow_dvd_pow 10 short), Nat.pow_div short (by decide)]
      · have full : 6 - (ds.take 6).length = 0 := by omega
        have parts : 10 ^ ds.length = 10 ^ (ds.length - 6) * 10 ^ 6 := by
          rw [← Nat.pow_add, Nat.sub_add_cancel long]
        rw [full, Nat.pow_zero, Nat.mul_one, ofDigitChars_take digits, parts,
          Nat.mul_div_mul_right _ _ (by decide)]
    rw [if_neg none, value]
    exact .point (by omega) (by omega) ⟨rfl, fun d mem => digits d (List.mem_of_mem_take mem), rfl⟩

/-- A fraction of at most six digits is read as microseconds. -/
lemma readFraction?_digits (h : Digits width n ds) (short : width ≤ 6) :
    readFraction? next ds = some (n * 10 ^ (6 - width), next == '\x00') := by
  rw [readFraction?, h.length, Nat.min_eq_right short, h.takeNumber?_self]
  rfl

/-- A part of the clock before a colon is read in front of the parts behind it. -/
lemma readParts?_colon (h : Digits 2 n ds) (more : rest ≠ []) :
    readParts? next true (ds ++ ':' :: rest) (parts + 1) =
      (readParts? next true rest parts).map fun (values, micros, complete) =>
        (n :: values, micros, complete) := by
  have long : ¬ ((':' :: rest).length ≤ 1 ∧ ((':' :: rest).headD next).toNat < 128) := by
    have := List.length_pos_iff.mpr more
    rw [List.length_cons]
    omega
  rw [readParts?, h.takeNumber?]
  dsimp only [Option.bind_eq_bind, Option.bind_some]
  rw [if_neg long]
  simp only [List.headD_cons, beq_self_eq_true, ite_self, Bool.and_self, if_true, List.tail_cons]
  rcases readParts? next true rest parts with _ | ⟨values, micros, complete⟩ <;> rfl

/-- The last part of the clock is read with its fraction. -/
lemma readParts?_last (h : Digits 2 n ds) (f : Fraction micros fraction)
    (plain : next.toNat < 128) :
    readParts? next true (ds ++ fraction) (parts + 1) =
      some ([n], micros, next == '\x00') := by
  rw [readParts?, h.takeNumber?]
  dsimp only [Option.bind_eq_bind, Option.bind_some]
  cases f with
  | none => exact if_pos ⟨Nat.zero_le 1, plain⟩
  | @point width k ds positive short f =>
    have long : ¬ (('.' :: ds).length ≤ 1 ∧ (('.' :: ds).headD next).toNat < 128) := by
      rw [List.length_cons, f.length]
      omega
    have other : (('.' :: ds).headD next == ':') = false := rfl
    rw [if_neg long, other, Bool.and_false, if_neg Bool.false_ne_true, if_pos (.inl rfl),
      List.tail_cons, readFraction?_digits f short]
    rfl

/-- A clock with seconds and a fraction is read from its numbers. -/
lemma readClock?_seconds (h : Digits 2 hour hh) (m : Digits 2 minute mm) (s : Digits 2 second ss)
    (f : Fraction micros fraction) (plain : next.toNat < 128) :
    readClock? next (hh ++ ':' :: (mm ++ ':' :: (ss ++ fraction))) =
      some ⟨hour, minute, second, micros, next == '\x00'⟩ := by
  rw [readClock?, readParts?_colon h (by simp), readParts?_colon m, readParts?_last s f plain]
  · rfl
  · intro none
    have := s.length
    simp_all

/-- A clock of hours and minutes is read from its numbers. -/
lemma readClock?_minutes (h : Digits 2 hour hh) (m : Digits 2 minute mm)
    (plain : next.toNat < 128) :
    readClock? next (hh ++ ':' :: mm) = some ⟨hour, minute, 0, 0, next == '\x00'⟩ := by
  have last : readParts? next true (mm ++ []) 2 = some ([minute], 0, next == '\x00') :=
    readParts?_last m .none plain
  rw [List.append_nil] at last
  rw [readClock?, readParts?_colon h, last]
  · rfl
  · rintro rfl
    cases m.length

/-! ## Times of day and offsets -/

/-- An offset of hours and minutes is read with its sign. -/
lemma readOffset?_minutes (signed : sign = '+' ∨ sign = '-') (h : Digits 2 hour hh)
    (m : Digits 2 minute mm) :
    readOffset? (sign :: (hh ++ ':' :: mm)) =
      let distance : Int := ((hour * 60 + minute) * 60000000 : Nat)
      some (if sign = '-' then -distance else distance) := by
  have clock : readClock? '\x00' (hh ++ ':' :: mm) = some ⟨hour, minute, 0, 0, true⟩ :=
    readClock?_minutes h m (by decide)
  have whole : (if (hour * 60 + minute) * 60 + 0 = 0 then 0
      else ((hour * 60 + minute) * 60 + 0) * 1000000 + 0) = (hour * 60 + minute) * 60000000 := by
    split <;> omega
  unfold readOffset?
  split
  case h_1 eq => rcases signed with rfl | rfl <;> cases eq
  case h_2 eq =>
    cases eq
    rw [clock]
    dsimp only [Option.bind_eq_bind, Option.bind_some]
    rw [whole]
    rfl
  case h_3 eq => cases eq

/-- A clock reading ends where the offset begins. -/
lemma readTime?_offset (plain : ∀ c ∈ region, startsOffset c = false)
    (start : startsOffset sign = true) :
    readTime? date (region ++ sign :: tail) = (readClock? sign region).bind fun clock =>
      (readOffset? (sign :: tail)).map fun offset =>
        ⟨date, clock.hour, clock.minute, clock.second, clock.microsecond, some offset⟩ := by
  have within : ∀ c ∈ region, (!startsOffset c) = true := fun c mem => by rw [plain c mem]; rfl
  have taken : (region ++ sign :: tail).takeWhile (fun c => !startsOffset c) = region := by
    rw [List.takeWhile_append_of_pos within, List.takeWhile_cons_of_neg (by simp [start]),
      List.append_nil]
  have left : (region ++ sign :: tail).dropWhile (fun c => !startsOffset c) = sign :: tail := by
    rw [List.dropWhile_append_of_pos within, List.dropWhile_cons_of_neg (by simp [start])]
  rw [readTime?, taken, left, List.headD_cons]
  rcases readClock? sign region with _ | clock
  · rfl
  · rw [Option.bind_some, Option.map_eq_bind]
    rfl

/-- No offset starts with a digit. -/
lemma not_startsOffset_of_isDigit (digit : isDigit c = true) : startsOffset c = false := by
  have plus := ne_of_isDigit digit (d := '+') rfl
  have minus := ne_of_isDigit digit (d := '-') rfl
  have universal := ne_of_isDigit digit (d := 'Z') rfl
  simp [startsOffset, plus, minus, universal]

/-- A fraction consists of a point and digits. -/
lemma Fraction.mem (f : Fraction micros fraction) (mem : c ∈ fraction) :
    c = '.' ∨ isDigit c = true := by
  cases f with
  | none => cases mem
  | point _ _ f => exact (List.mem_cons.mp mem).imp_right (f.isDigit c)

/-- A clock reading to the second holds no character that an offset starts with. -/
lemma not_startsOffset_of_mem (h : Digits 2 hour hh) (m : Digits 2 minute mm)
    (s : Digits 2 second ss) (f : Fraction micros fraction)
    (mem : c ∈ hh ++ ':' :: (mm ++ ':' :: (ss ++ fraction))) : startsOffset c = false := by
  have parts : c = ':' ∨ c = '.' ∨ isDigit c = true := by
    simp only [List.mem_append, List.mem_cons] at mem
    rcases mem with mem | rfl | mem | rfl | mem | mem
    · exact .inr (.inr (h.isDigit c mem))
    · exact .inl rfl
    · exact .inr (.inr (m.isDigit c mem))
    · exact .inl rfl
    · exact .inr (.inr (s.isDigit c mem))
    · exact .inr (f.mem mem)
  rcases parts with rfl | rfl | digit
  · rfl
  · rfl
  · exact not_startsOffset_of_isDigit digit

/-- A time of day to the second or its fractions, with an offset to the minute. -/
lemma readTime?_seconds (date : Date) (h : Digits 2 hour hh) (m : Digits 2 minute mm)
    (s : Digits 2 second ss) (f : Fraction micros fraction) (signed : sign = '+' ∨ sign = '-')
    (a : Digits 2 hours ahead) (p : Digits 2 minutes past) :
    readTime? date
        (hh ++ ':' :: (mm ++ ':' :: (ss ++ fraction)) ++ sign :: (ahead ++ ':' :: past)) =
      let distance : Int := ((hours * 60 + minutes) * 60000000 : Nat)
      some ⟨date, hour, minute, second, micros,
        some (if sign = '-' then -distance else distance)⟩ := by
  have start : startsOffset sign = true := by rcases signed with rfl | rfl <;> rfl
  have plain : sign.toNat < 128 := by rcases signed with rfl | rfl <;> decide
  rw [readTime?_offset (fun c => not_startsOffset_of_mem h m s f) start,
    readClock?_seconds h m s f plain, readOffset?_minutes signed a p]
  rfl

end ProxyFleet.Moment
