import Mathlib.Tactic.Common
import ProxyFleet.Text.Numeral

/-!
# Numerals are read back

The numeral of a number is read as that number, if it is not too long to be read.
-/

namespace ProxyFleet.Text

variable {c : Char} {cs : List Char} {n : Int}

/-- What a number is written with are digits. -/
lemma isDigit_of_mem {k : Nat} (h : c ∈ Nat.toDigits 10 k) : c.isDigit :=
  Nat.isDigit_of_mem_toDigits (by decide) (by decide) h

/-- A digit counts as its distance from zero. -/
lemma digitValue?_digit (h : c.isDigit) : digitValue? (.char c) = some (c.toNat - '0'.toNat) := by
  obtain ⟨low, high⟩ := Char.isDigit_iff_toNat.mp h
  have bounds : 48 ≤ (Symbol.char c).point ∧ (Symbol.char c).point < 48 + 10 :=
    ⟨low, Nat.lt_succ_of_le high⟩
  obtain ⟨others, zeros⟩ : ∃ others, zeroDigits = 48 :: others := ⟨_, rfl⟩
  rw [digitValue?, zeros, List.findSome?_cons, if_pos bounds]
  rfl

/-- Digits without underscores between them are read one by one. -/
lemma digitRun?_eq_mapM {s : Text} (some : s ≠ []) (plain : .char '_' ∉ s) :
    digitRun? s = s.mapM digitValue? := by
  induction s with
  | nil => exact absurd rfl some
  | cons c rest ih =>
    rcases rest with _ | ⟨d, rest⟩
    · cases h : digitValue? c <;> simp [digitRun?, h]
    · have other : d ≠ .char '_' := by
        rintro rfl
        exact plain (by simp)
      have ih := ih (List.cons_ne_nil _ _) (mt (List.mem_cons_of_mem _) plain)
      rw [List.mapM_cons, ← ih, digitRun?]
      case x_1 => simp
      case x_2 => simpa using other

/-- Digits count as their distances from zero. -/
lemma mapM_digitValue?_digits (digits : ∀ c ∈ cs, c.isDigit) :
    (ofChars cs).mapM digitValue? = some (cs.map fun c => c.toNat - '0'.toNat) := by
  induction cs with
  | nil => rfl
  | cons c rest ih =>
    have ih := ih fun d mem => digits d (List.mem_cons_of_mem _ mem)
    rw [ofChars, List.map_cons, List.mapM_cons, digitValue?_digit (digits c List.mem_cons_self)]
    rw [ofChars] at ih
    rw [ih]
    rfl

/-- The digits of a number make up the number. -/
lemma ofDigits_toDigits (k : Nat) :
    ofDigits ((Nat.toDigits 10 k).map fun c => c.toNat - '0'.toNat) = k := by
  rw [ofDigits, List.foldl_map, ← Nat.ofDigitChars_eq_foldl, Nat.ofDigitChars_ten_toDigits]

/-- The digits of a number are read back, unless there are too many. -/
lemma readDigits?_toDigits (k : Nat) : readDigits? (ofChars (Nat.toDigits 10 k)) =
    if (Nat.toDigits 10 k).length ≤ maxDigits then some k else none := by
  have digits : ∀ c ∈ Nat.toDigits 10 k, c.isDigit := fun c => isDigit_of_mem
  have plain : .char '_' ∉ ofChars (Nat.toDigits 10 k) := by
    intro mem
    obtain ⟨c, mem, eq⟩ := List.mem_map.mp mem
    cases eq
    exact absurd (digits _ mem) (by decide)
  have some : ofChars (Nat.toDigits 10 k) ≠ [] := mt List.map_eq_nil_iff.mp Nat.toDigits_ne_nil
  unfold readDigits?
  rw [digitRun?_eq_mapM some plain, mapM_digitValue?_digits digits, Option.bind_eq_bind,
    Option.bind_some, List.length_map, ofDigits_toDigits]

/-- No digit is blank. -/
lemma not_isBlank_digit (h : c.isDigit) : isBlank (.char c) = false := by
  obtain ⟨low, high⟩ := Char.isDigit_iff_toNat.mp h
  have low : 48 ≤ (Symbol.char c).point := low
  have high : (Symbol.char c).point ≤ 57 := high
  simp only [isBlank, inRanges, blankRanges, List.any_cons, List.any_nil, Bool.or_false,
    Bool.or_eq_false_iff, Bool.and_eq_false_imp, decide_eq_true_eq, decide_eq_false_iff_not]
  omega

/-- A text is not trimmed where nothing is to be trimmed. -/
lemma trim_eq_self {p : Symbol → Bool} {s : Text} (h : ∀ d ∈ s, p d = false) : trim p s = s := by
  have front : ∀ {t : Text}, (∀ d ∈ t, p d = false) → t.dropWhile p = t := by
    intro t plain
    cases t with
    | nil => rfl
    | cons d t => exact List.dropWhile_cons_of_neg (by simp [plain d List.mem_cons_self])
  have back := front fun d mem => h d (List.mem_reverse.mp mem)
  rw [trim, dropEnd, front h, back, List.reverse_reverse]

/-- A numeral consists of digits, behind a minus sign when it is that of a negative number. -/
lemma mem_numeral {d : Symbol} (h : d ∈ numeral n) :
    ∃ c : Char, d = .char c ∧ (c.isDigit ∨ n < 0 ∧ c = '-') := by
  cases n with
  | ofNat k =>
    obtain ⟨c, mem, rfl⟩ := List.mem_map.mp h
    exact ⟨c, rfl, .inl (isDigit_of_mem mem)⟩
  | negSucc k =>
    obtain ⟨c, mem, rfl⟩ := List.mem_map.mp h
    rcases List.mem_cons.mp mem with rfl | mem
    · exact ⟨'-', rfl, .inr ⟨Int.negSucc_lt_zero k, rfl⟩⟩
    · exact ⟨c, rfl, .inl (isDigit_of_mem mem)⟩

/-- A numeral without a sign has decimal digits only. -/
lemma all_isDecimal_numeral (h : 0 ≤ n) : ∀ d ∈ numeral n, isDecimal d = true := by
  intro d mem
  obtain ⟨c, rfl, digit | ⟨negative, -⟩⟩ := mem_numeral mem
  · rw [isDecimal, digitValue?_digit digit]
    rfl
  · exact absurd h (Int.not_le.mpr negative)

/-- A numeral has no symbols but digits and the minus. -/
lemma not_mem_numeral {d : Symbol} (digit : isDecimal d = false) (minus : d ≠ .char '-') :
    d ∉ numeral n := by
  intro mem
  obtain ⟨c, rfl, h | ⟨-, rfl⟩⟩ := mem_numeral mem
  · rw [isDecimal, digitValue?_digit h] at digit
    cases digit
  · exact minus rfl

/-- A numeral is not empty. -/
lemma numeral_ne_nil (n : Int) : numeral n ≠ [] := by
  cases n with
  | ofNat k => exact mt List.map_eq_nil_iff.mp Nat.toDigits_ne_nil
  | negSucc k => exact List.cons_ne_nil _ _

/-- A numeral has no blanks. -/
lemma not_isBlank_numeral : ∀ d ∈ numeral n, isNumeralBlank d = false := by
  intro d mem
  obtain ⟨c, rfl, digit | ⟨-, rfl⟩⟩ := mem_numeral mem
  · rw [isNumeralBlank, not_isBlank_digit digit, Bool.false_and]
  · decide

/-- Different numbers have different numerals, however long these are. -/
lemma numeral_injective {m : Int} (h : numeral m = numeral n) : m = n := by
  have digits : ∀ {j k : Nat}, ofChars (Nat.toDigits 10 j) = ofChars (Nat.toDigits 10 k) →
      j = k := by
    intro j k eq
    have eq : Nat.toDigits 10 j = Nat.toDigits 10 k :=
      List.map_inj_right (fun _ _ => Symbol.char.inj) |>.mp eq
    rw [← Nat.ofDigitChars_ten_toDigits (n := j), eq, Nat.ofDigitChars_ten_toDigits]
  have unsigned : ∀ {k : Nat} {rest : Text}, ofChars (Nat.toDigits 10 k) ≠ .char '-' :: rest := by
    intro k rest eq
    obtain ⟨c, mem, minus⟩ := List.mem_map.mp (eq ▸ List.mem_cons_self : .char '-' ∈ ofChars _)
    cases minus
    exact absurd (isDigit_of_mem mem) (by decide)
  cases m <;> cases n
  case ofNat.ofNat j k => exact congrArg Int.ofNat (digits h)
  case ofNat.negSucc => exact absurd h unsigned
  case negSucc.ofNat => exact absurd h.symm unsigned
  case negSucc.negSucc j k =>
    have eq := digits (List.tail_eq_of_cons_eq h)
    exact congrArg Int.negSucc (by omega)

/-- The numeral of a number is read exactly when it is not too long. -/
lemma readInt?_numeral_eq (n : Int) :
    readInt? (numeral n) = if hasNumeral n then some n else none := by
  rw [readInt?, trim_eq_self not_isBlank_numeral]
  have read := readDigits?_toDigits n.natAbs
  cases n with
  | ofNat k =>
    rcases digits : Nat.toDigits 10 k with _ | ⟨c, rest⟩
    · exact absurd digits Nat.toDigits_ne_nil
    · have digit : c.isDigit := isDigit_of_mem (k := k) (by simp [digits])
      have minus : c ≠ '-' := by rintro rfl; exact absurd digit (by decide)
      have plus : c ≠ '+' := by rintro rfl; exact absurd digit (by decide)
      rw [numeral, hasNumeral]
      simp only [Int.natAbs_ofNat', digits, ofChars, List.map_cons] at read ⊢
      rw [readSigned?, read]
      · split <;> simp_all
      · simp [minus]
      · simp [plus]
  | negSucc k =>
    rw [numeral, hasNumeral, ofChars, List.map_cons, readSigned?]
    rw [ofChars, Int.natAbs_negSucc] at read
    rw [Int.natAbs_negSucc, read]
    split <;> simp_all [Int.negSucc_eq]

/-- A numeral is read back. -/
lemma readInt?_numeral (h : hasNumeral n) : readInt? (numeral n) = some n := by
  rw [readInt?_numeral_eq, if_pos h]

/-- A numeral is the canonical form of its number. -/
lemma readCanonicalInt?_numeral (h : hasNumeral n) : readCanonicalInt? (numeral n) = some n := by
  rw [readCanonicalInt?, readInt?_numeral h]
  exact if_pos rfl

/-- What is read as canonical is the numeral of its number. -/
lemma readCanonicalInt?_eq_some {s : Text} :
    readCanonicalInt? s = some n ↔ hasNumeral n ∧ s = numeral n := by
  constructor
  · intro h
    unfold readCanonicalInt? at h
    split at h
    case h_1 k read =>
      split at h
      case isTrue canonical =>
        cases h
        rw [← canonical, readInt?_numeral_eq] at read
        refine ⟨?_, canonical.symm⟩
        by_contra long
        rw [if_neg long] at read
        cases read
      case isFalse => cases h
    case h_2 => cases h
  · rintro ⟨short, rfl⟩
    exact readCanonicalInt?_numeral short

end ProxyFleet.Text
