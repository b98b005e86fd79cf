import ProxyFleet.Creation.Naming
import ProxyFleet.Proofs.Least
import ProxyFleet.Proofs.Outcome
import ProxyFleet.Proofs.Text.Digits
import ProxyFleet.Proofs.Text.Splitting

/-!
# Numbers of container names

A name has a number when it is made of the stem, a hyphen and a row of digits; docker may show it
with a slash in front, and a line end may follow. The number that is given out is the least one that
no name has, and names of other stems do not matter.
-/

namespace ProxyFleet
open Text

/-- Whether a name has a number under a stem. -/
inductive Numbered (stem : Text) : Text → Nat → Prop where
  | intro {slash ds tail : Text} {n} : slash = [] ∨ slash = "/" → Writes ds n →
    tail = [] ∨ tail = "\n" → Numbered stem (slash ++ (stem ++ "-" ++ (ds ++ tail))) n

variable {stem other name s t ds : Text} {names others : List Text} {k m n : Nat} {used : List Int}

/-! ## Digits at the end of a name -/

/-- The digits at the end of a name are read when nothing but a line break follows them. -/
lemma suffixDigits?_eq_some : suffixDigits? s = some ds ↔
    ds ≠ [] ∧ (∀ d ∈ ds, isDecimal d = true) ∧
      ∃ tail, (tail = [] ∨ tail = "\n") ∧ s = ds ++ tail := by
  unfold suffixDigits?
  constructor
  · intro h
    dsimp only at h
    split at h
    case isTrue found =>
      cases h
      simp only [Bool.and_eq_true, Bool.not_eq_true', List.isEmpty_eq_false_iff, Bool.or_eq_true,
        List.isEmpty_iff, beq_iff_eq] at found
      exact ⟨found.1, fun d mem => List.mem_takeWhile_imp mem, _, found.2,
        (List.takeWhile_append_dropWhile ..).symm⟩
    case isFalse => cases h
  · rintro ⟨some, digits, tail, tails, rfl⟩
    have stops : tail.takeWhile isDecimal = [] ∧ tail.dropWhile isDecimal = tail := by
      rcases tails with rfl | rfl <;> decide
    have front : (ds ++ tail).takeWhile isDecimal = ds := by
      rw [List.takeWhile_append_of_pos digits, stops.1, List.append_nil]
    have rest : (ds ++ tail).dropWhile isDecimal = tail := by
      rw [List.dropWhile_append_of_pos digits, stops.2]
    have ends : (tail.isEmpty || tail == "\n") = true := by
      rcases tails with rfl | rfl <;> rfl
    simp [front, rest, ends, some]

/-- A text that begins with a stem and a hyphen does not do so behind a slash as well. -/
lemma slash_append_ne (stem s t : Text) :
    .char '/' :: (stem ++ .char '-' :: s) ≠ stem ++ .char '-' :: t := by
  induction stem with
  | nil =>
    intro eq
    exact absurd (List.head_eq_of_cons_eq eq) (by decide)
  | cons c stem ih =>
    intro eq
    rw [List.cons_append, List.cons_append] at eq
    obtain ⟨rfl, eq⟩ := List.cons_eq_cons.mp eq
    exact ih eq

/-- So the digits behind a stem are read when nothing else stands there. -/
lemma digitsAfter_eq_some {start : Text} : (after? start name).bind suffixDigits? = some ds ↔
    ds ≠ [] ∧ (∀ d ∈ ds, isDecimal d = true) ∧
      ∃ tail, (tail = [] ∨ tail = ("\n" : Text)) ∧ name = start ++ (ds ++ tail) := by
  rw [Option.bind_eq_some_iff]
  constructor
  · rintro ⟨rest, begins, suffix⟩
    obtain ⟨some, digits, tail, tails, rfl⟩ := suffixDigits?_eq_some.mp suffix
    exact ⟨some, digits, tail, tails, (after?_eq_some.mp begins).symm⟩
  · rintro ⟨some, digits, tail, tails, rfl⟩
    exact ⟨ds ++ tail, after?_eq_some.mpr rfl,
      suffixDigits?_eq_some.mpr ⟨some, digits, tail, tails, rfl⟩⟩

/-- The digits of a name stand behind its stem and a hyphen. -/
lemma nameDigits?_eq_some : nameDigits? stem name = some ds ↔
    ds ≠ [] ∧ (∀ d ∈ ds, isDecimal d = true) ∧ ∃ slash tail, (slash = [] ∨ slash = ("/" : Text)) ∧
      (tail = [] ∨ tail = ("\n" : Text)) ∧ name = slash ++ (stem ++ "-" ++ (ds ++ tail)) := by
  rw [nameDigits?, Option.or_eq_some_iff, digitsAfter_eq_some, digitsAfter_eq_some]
  constructor
  · rintro (⟨some, digits, tail, tails, rfl⟩ | ⟨-, some, digits, tail, tails, rfl⟩)
    · exact ⟨some, digits, _, tail, .inr rfl, tails, by simp only [List.append_assoc]⟩
    · exact ⟨some, digits, [], tail, .inl rfl, tails, rfl⟩
  · rintro ⟨some, digits, slash, tail, rfl | rfl, tails, rfl⟩
    · refine .inr ⟨Option.eq_none_iff_forall_ne_some.mpr fun ds' slashed => ?_, some, digits, tail,
        tails, rfl⟩
      obtain ⟨-, -, tail', -, eq⟩ := digitsAfter_eq_some.mp slashed
      simp only [List.append_assoc] at eq
      exact slash_append_ne _ _ _ eq.symm
    · exact .inl ⟨some, digits, tail, tails, by simp only [List.append_assoc]⟩

namespace Numbered

/-- The name of a number has it. -/
lemma ofNumeral (stem : Text) {slash : Text} (h : slash = [] ∨ slash = "/") (n : Nat) :
    Numbered stem (slash ++ (stem ++ ("-" : Text) ++ numeral n)) n := by
  have numbered : Numbered stem (slash ++ (stem ++ ("-" : Text) ++ (numeral n ++ []))) n :=
    .intro h (writes_numeral n) (.inl rfl)
  rwa [List.append_nil] at numbered

/-- A name has the number that its digits write. -/
lemma iff_nameDigits? :
    Numbered stem name n ↔ ∃ ds, nameDigits? stem name = some ds ∧ Writes ds n := by
  constructor
  · rintro ⟨slashes, writes, tails⟩
    exact ⟨_, nameDigits?_eq_some.mpr ⟨(writes_iff.mp writes).1, writes.all_isDecimal, _, _,
      slashes, tails, rfl⟩, writes⟩
  · rintro ⟨ds, found, writes⟩
    obtain ⟨-, -, slash, tail, slashes, tails, rfl⟩ := nameDigits?_eq_some.mp found
    exact ⟨slashes, writes, tails⟩

/-- A name has at most one number. -/
lemma unique (h : Numbered stem name m) (h' : Numbered stem name n) : m = n := by
  obtain ⟨ds, found, writes⟩ := iff_nameDigits?.mp h
  obtain ⟨ds', found', writes'⟩ := iff_nameDigits?.mp h'
  cases found.symm.trans found'
  exact writes.unique writes'

/-- What stands before the last hyphen of a name is its stem, but for a slash in front. -/
lemma stem_eq (h : Numbered other name k) (h' : Numbered stem name n) :
    other = stem ∨ other = "/" ++ stem ∨ stem = "/" ++ other := by
  have plain : ∀ {ds tail : Text} {n}, Writes ds n → tail = [] ∨ tail = "\n" →
      .char '-' ∉ ds ++ tail := by
    intro ds tail n writes tails mem
    rcases List.mem_append.mp mem with mem | mem
    · exact absurd (writes.all_isDecimal _ mem) (by decide)
    · rcases tails with rfl | rfl <;> exact absurd mem (by decide)
  obtain @⟨slash, ds, tail, n, slashes, writes, tails⟩ := h
  generalize named : slash ++ (other ++ "-" ++ (ds ++ tail)) = name at h'
  obtain @⟨slash', ds', tail', n', slashes', writes', tails'⟩ := h'
  have around : ∀ slash stem rest : Text,
      slash ++ (stem ++ "-" ++ rest) = (slash ++ stem) ++ .char '-' :: rest := by
    intro slash stem rest
    simp only [List.append_assoc]
    rfl
  rw [around, around] at named
  obtain ⟨before, -⟩ := append_cons_inj named (plain writes tails) (plain writes' tails')
  rcases slashes with rfl | rfl <;> rcases slashes' with rfl | rfl
  · exact .inl before
  · exact .inr (.inl before)
  · exact .inr (.inr before.symm)
  · exact .inl (List.append_cancel_left before)

end Numbered

/-! ## Numbers that are taken -/

/-- Names whose numbers are not too long can all be read, and have one number at most. -/
lemma usedNumbers_eq
    (short : ∀ name ∈ names, ∀ ds, nameDigits? stem name = some ds → ds.length ≤ maxDigits) :
    ∃ used, usedNumbers stem names = .ok used ∧ used.length ≤ names.length ∧
      ∀ i, i ∈ used ↔ ∃ name ∈ names, ∃ n : Nat, i = n ∧ Numbered stem name n := by
  induction names with
  | nil => exact ⟨[], rfl, le_rfl, by simp⟩
  | cons name rest ih =>
    obtain ⟨used, others, few, taken⟩ :=
      ih fun name' mem => short name' (List.mem_cons_of_mem _ mem)
    unfold usedNumbers
    rcases found : nameDigits? stem name with _ | ds
    · refine ⟨used, others, by simp; omega, fun i => ?_⟩
      have none : ∀ n, ¬ Numbered stem name n := by
        intro n numbered
        obtain ⟨ds, found', -⟩ := Numbered.iff_nameDigits?.mp numbered
        cases found.symm.trans found'
      simp [taken, none]
    · obtain ⟨some, digits, -⟩ := nameDigits?_eq_some.mp found
      obtain ⟨n, writes⟩ := exists_writes some digits
      have numbered : Numbered stem name n := Numbered.iff_nameDigits?.mpr ⟨ds, found, writes⟩
      have only : ∀ i : Int, (∃ k : Nat, i = k ∧ Numbered stem name k) ↔ i = n := by
        intro i
        constructor
        · rintro ⟨k, rfl, numbered'⟩
          rw [numbered'.unique numbered]
        · rintro rfl
          exact ⟨n, rfl, numbered⟩
      have plain : .char '_' ∉ ds := fun mem => absurd (digits _ mem) (by decide)
      have read : readDigits? ds = .some n :=
        (readDigits?_eq_some plain).mpr ⟨writes, short name List.mem_cons_self ds found⟩
      dsimp only
      rw [read, others]
      refine ⟨n :: used, rfl, by simp; omega, fun i => ?_⟩
      simp only [List.mem_cons, exists_eq_or_imp, taken, only]

/-- The number that is given out is the least one from one on that no name has. -/
lemma nextNumber_isLeast
    (short : ∀ name ∈ names, ∀ ds, nameDigits? stem name = some ds → ds.length ≤ maxDigits) :
    ∃ n : Nat, nextNumber stem names = .ok n ∧ n ≤ names.length + 1 ∧
      IsLeast {m | 1 ≤ m ∧ ∀ name ∈ names, ¬ Numbered stem name m} n := by
  obtain ⟨used, read, few, taken⟩ := usedNumbers_eq short
  have free : ∀ m : Nat, (m : Int) ∉ used ↔ ∀ name ∈ names, ¬ Numbered stem name m := by
    intro m
    simp only [taken, Int.natCast_inj, not_exists, not_and]
    simp
  obtain ⟨⟨positive, unused⟩, least⟩ := isLeast_leastFree used 1
  have bound := leastFree_le used 1
  have whole : ((leastFree used 1).toNat : Int) = leastFree used 1 := by omega
  refine ⟨(leastFree used 1).toNat, ?_, by omega, ⟨by omega, ?_⟩, fun m ⟨one, unnamed⟩ => ?_⟩
  · rw [nextNumber, read, whole]
    rfl
  · rw [← free, whole]
    exact unused
  · have := least ⟨by omega, (free m).mpr unnamed⟩
    omega

/-! ## Numbers that are given out -/

/-- If no row of digits in the names is too long, a number is given out, at most one more than there
are names. No name has it, and every smaller one is that of some name. Names that have no number
under the stem do not matter, and such are the names of other stems, unless the stems differ by a
slash in front. -/
theorem next_number_fresh (stem : Text) (names : List Text)
    (short : ∀ name ∈ names, ∀ ds, ds <:+: name → (∀ d ∈ ds, isDecimal d = true) →
      ds.length ≤ maxDigits) :
    ∃ n : Nat, nextNumber stem names = .ok n ∧ 1 ≤ n ∧ n ≤ names.length + 1 ∧
      stem ++ "-" ++ numeral n ∉ names ∧ "/" ++ stem ++ "-" ++ numeral n ∉ names ∧
      (∀ m, 1 ≤ m → m < n → ∃ name ∈ names, Numbered stem name m) ∧
      (∀ others, (∀ name, (∃ m, Numbered stem name m) → (name ∈ others ↔ name ∈ names)) →
        nextNumber stem others = .ok n) ∧
      ∀ other name k, Numbered other name k → other ≠ stem → other ≠ "/" ++ stem →
        stem ≠ "/" ++ other → ∀ m, ¬ Numbered stem name m := by
  have readable : ∀ name ∈ names, ∀ ds, nameDigits? stem name = some ds →
      ds.length ≤ maxDigits := by
    intro name mem ds found
    obtain ⟨-, digits, slash, tail, -, -, eq⟩ := nameDigits?_eq_some.mp found
    exact short name mem ds ⟨slash ++ (stem ++ "-"), tail, by simp [eq]⟩ digits
  obtain ⟨n, given, bound, ⟨positive, free⟩, least⟩ := nextNumber_isLeast readable
  refine ⟨n, given, positive, bound, fun mem => ?_, fun mem => ?_, fun m one less => ?_,
    fun others same => ?_, fun other name k numbered => ?_⟩
  · refine free _ mem ?_
    simpa using Numbered.ofNumeral stem (.inl rfl) n
  · refine free _ mem ?_
    simpa using Numbered.ofNumeral stem (.inr rfl) n
  · by_contra unnamed
    push Not at unnamed
    exact absurd (least ⟨one, unnamed⟩) (Nat.not_le.mpr less)
  · have readable' : ∀ name ∈ others, ∀ ds, nameDigits? stem name = some ds →
        ds.length ≤ maxDigits := by
      intro name mem ds found
      obtain ⟨some, digits, -⟩ := nameDigits?_eq_some.mp found
      obtain ⟨m, writes⟩ := exists_writes some digits
      have known := same name ⟨m, Numbered.iff_nameDigits?.mpr ⟨ds, found, writes⟩⟩
      exact readable name (known.mp mem) ds found
    obtain ⟨n', given', -, least'⟩ := nextNumber_isLeast readable'
    have alike : {m | 1 ≤ m ∧ ∀ name ∈ others, ¬ Numbered stem name m} =
        {m | 1 ≤ m ∧ ∀ name ∈ names, ¬ Numbered stem name m} := by
      ext m
      refine and_congr_right fun _ => ?_
      constructor
      · exact fun h name mem numbered => h name ((same name ⟨m, numbered⟩).mpr mem) numbered
      · exact fun h name mem numbered => h name ((same name ⟨m, numbered⟩).mp mem) numbered
    rw [alike] at least'
    rw [given', least'.unique ⟨⟨positive, free⟩, least⟩]
  · intro stems slashed slashed' m numbered'
    rcases numbered.stem_eq numbered' with eq | eq | eq
    · exact stems eq
    · exact slashed eq
    · exact slashed' eq

example : nextNumber "myst" ["/myst-1", "myst-\u0662", "myst-004\n", "myst-connect-3"] = .ok 3 :=
  rfl

/-- Among the names of containers of two stems, the second number of the first stem is free. -/
theorem second_number_fresh :
    ∃ n : Nat, nextNumber "myst" ["/myst-1", "/myst-003", "/myst-connect-2"] = .ok n ∧
      (∀ name ∈ (["/myst-1", "/myst-003", "/myst-connect-2"] : List Text), ∀ ds, ds <:+: name →
        (∀ d ∈ ds, isDecimal d = true) → ds.length ≤ maxDigits) ∧
      "/" ++ ("myst" : Text) ++ "-" ++ numeral n ∉
        (["/myst-1", "/myst-003", "/myst-connect-2"] : List Text) ∧ n = 2 := by
  have short : ∀ name ∈ (["/myst-1", "/myst-003", "/myst-connect-2"] : List Text), ∀ ds,
      ds <:+: name → (∀ d ∈ ds, isDecimal d = true) → ds.length ≤ maxDigits := by
    intro name mem ds within _
    have few : ∀ name ∈ (["/myst-1", "/myst-003", "/myst-connect-2"] : List Text),
        name.length ≤ maxDigits := by decide
    exact within.length_le.trans (few name mem)
  obtain ⟨n, given, -, -, -, free, -⟩ :=
    next_number_fresh "myst" ["/myst-1", "/myst-003", "/myst-connect-2"] short
  refine ⟨n, given, short, free, ?_⟩
  have ran : nextNumber "myst" ["/myst-1", "/myst-003", "/myst-connect-2"] = .ok 2 := rfl
  have same : (n : Int) = 2 := Except.ok.inj (given.symm.trans ran)
  exact_mod_cast same

end ProxyFleet
