import Mathlib.Data.List.Induction
import ProxyFleet.Proofs.Outcome
import ProxyFleet.Proofs.Text.Numeral

/-!
# Rows of digits

`Writes` says which number a row of decimal digits writes, whatever scripts the digits are from. A
text that consists of digits, or of characters that pass for digits, is read as a number exactly
when it is such a row and not too long.
-/

namespace ProxyFleet.Text

/-- Whether a text is a row of decimal digits that writes a number. -/
inductive Writes : Text → Nat → Prop where
  | digit {d v} : digitValue? d = some v → Writes [d] v
  | snoc {ds n d v} : Writes ds n → digitValue? d = some v → Writes (ds ++ [d]) (10 * n + v)

variable {c d : Symbol} {s ds : Text} {k n : Nat} {vs : List Nat} {xs ys : List (Nat × Nat)}

/-- One more digit counts once, and those before it ten times. -/
lemma ofDigits_concat (vs : List Nat) (v : Nat) : ofDigits (vs ++ [v]) = 10 * ofDigits vs + v := by
  rw [ofDigits, List.foldl_append]
  rfl

/-- A list that ends in an element goes through where the others do and it does. -/
lemma mapM_concat {f : Symbol → Option Nat} : (ds ++ [d]).mapM f = some vs ↔
    ∃ others v, ds.mapM f = some others ∧ f d = some v ∧ vs = others ++ [v] := by
  rw [List.mapM_append, List.mapM_cons, List.mapM_nil]
  rcases ds.mapM f with _ | others
  · simp
  · rcases f d with _ | v <;> simp [eq_comm]

/-- The number is the one that the values of the digits add up to. -/
lemma writes_iff : Writes ds n ↔
    ds ≠ [] ∧ ∃ vs, ds.mapM digitValue? = some vs ∧ ofDigits vs = n := by
  constructor
  · intro h
    induction h with
    | @digit d v value => exact ⟨List.cons_ne_nil _ _, [v], by simp [value], by simp [ofDigits]⟩
    | @snoc ds n d v _ value ih =>
      obtain ⟨-, vs, values, rfl⟩ := ih
      exact ⟨by simp, vs ++ [v], mapM_concat.mpr ⟨vs, v, values, value, rfl⟩,
        ofDigits_concat vs v⟩
  · rintro ⟨some, vs, values, rfl⟩
    induction ds using List.reverseRecOn generalizing vs with
    | nil => exact absurd rfl some
    | append_singleton ds d ih =>
      obtain ⟨others, v, before, value, rfl⟩ := mapM_concat.mp values
      rw [ofDigits_concat]
      rcases ds with _ | ⟨e, ds⟩
      · cases before
        simpa [ofDigits] using Writes.digit value
      · exact .snoc (ih (List.cons_ne_nil _ _) others before) value

namespace Writes

/-- A row writes one number. -/
lemma unique (h : Writes ds n) (h' : Writes ds k) : n = k := by
  obtain ⟨-, vs, values, rfl⟩ := writes_iff.mp h
  obtain ⟨-, vs', values', rfl⟩ := writes_iff.mp h'
  rw [values] at values'
  rw [Option.some.inj values']

/-- What writes a number is decimal digits. -/
lemma all_isDecimal (h : Writes ds n) : ∀ d ∈ ds, isDecimal d = true := by
  induction h with
  | digit value =>
    intro d mem
    rw [List.mem_singleton.mp mem, isDecimal, value]
    rfl
  | snoc _ value ih =>
    intro d mem
    rcases List.mem_append.mp mem with mem | mem
    · exact ih d mem
    · rw [List.mem_singleton.mp mem, isDecimal, value]
      rfl

end Writes

/-- Every row of decimal digits writes a number. -/
lemma exists_writes (some : ds ≠ []) (digits : ∀ d ∈ ds, isDecimal d = true) :
    ∃ n, Writes ds n := by
  induction ds using List.reverseRecOn with
  | nil => exact absurd rfl some
  | append_singleton ds d ih =>
    obtain ⟨v, value⟩ := Option.isSome_iff_exists.mp (digits d (by simp))
    rcases ds with _ | ⟨e, ds⟩
    · exact ⟨v, .digit value⟩
    · obtain ⟨n, writes⟩ := ih (List.cons_ne_nil _ _) fun d mem =>
        digits d (List.mem_append_left _ mem)
      exact ⟨_, writes.snoc value⟩

/-- The numeral of a number writes it. -/
lemma writes_numeral (n : Nat) : Writes (numeral n) n :=
  writes_iff.mpr ⟨numeral_ne_nil n, _, mapM_digitValue?_digits fun _ => isDigit_of_mem,
    ofDigits_toDigits n⟩

/-! ## Reading rows -/

/-- Digits without separators are read as the number that they write, unless there are too many. -/
lemma readDigits?_eq_some (plain : .char '_' ∉ s) :
    readDigits? s = some n ↔ Writes s n ∧ s.length ≤ maxDigits := by
  by_cases none : s = []
  · rw [none]
    exact ⟨nofun, fun h => absurd rfl (writes_iff.mp h.1).1⟩
  · rw [readDigits?, digitRun?_eq_mapM none plain, Option.bind_eq_bind, Option.bind_eq_some_iff,
      writes_iff]
    constructor
    · rintro ⟨vs, values, h⟩
      rw [(of_mapM_some values).1] at h
      split at h
      · exact ⟨⟨none, vs, values, Option.some.inj h⟩, ‹_›⟩
      · cases h
    · rintro ⟨⟨-, vs, values, rfl⟩, short⟩
      exact ⟨vs, values, if_pos ((of_mapM_some values).1 ▸ short)⟩

/-! ## Characters that pass for digits -/

/-- Ranges that lie apart have no symbol in common. -/
lemma inRanges_apart (apart : ∀ x ∈ xs, ∀ y ∈ ys, x.2 < y.1 ∨ y.2 < x.1)
    (h : inRanges xs c = true) : inRanges ys c = false := by
  obtain ⟨x, mem, within⟩ := List.any_eq_true.mp h
  refine List.any_eq_false.mpr fun y mem' within' => ?_
  simp only [Bool.and_eq_true, decide_eq_true_eq] at within within'
  have := apart x mem y mem'
  omega

/-- The ranges of the decimal digits of all scripts. -/
def decimalRanges : List (Nat × Nat) := zeroDigits.map fun origin => (origin, origin + 9)

/-- A symbol is a decimal digit where it is in one of the ranges. -/
lemma isDecimal_eq_inRanges (c : Symbol) : isDecimal c = inRanges decimalRanges c := by
  rw [Bool.eq_iff_iff, isDecimal, digitValue?, List.isSome_findSome?, inRanges, decimalRanges,
    List.any_map, List.any_eq_true, List.any_eq_true]
  refine exists_congr fun origin => and_congr_right fun _ => ?_
  split <;> simp <;> omega

/-- What passes for a digit is no white space. -/
lemma not_isNumeralBlank_of_isDigitLike (h : isDigitLike c = true) : isNumeralBlank c = false := by
  have blank : isBlank c = false := by
    have within : inRanges (decimalRanges ++ digitLikeRanges) c = true := by
      rw [inRanges, List.any_append]
      rwa [isDigitLike, isDecimal_eq_inRanges] at h
    exact inRanges_apart (by decide +kernel) within
  rw [isNumeralBlank, blank, Bool.false_and]

/-- Of the texts that consist of what passes for digits, the rows of decimal digits that are not too
long are read as numbers. -/
lemma readInt?_eq_some_of_isDigitLike {i : Int} (row : ∀ d ∈ s, isDigitLike d = true) :
    readInt? s = some i ↔ ∃ n : Nat, i = n ∧ Writes s n ∧ s.length ≤ maxDigits := by
  have absent : ∀ d : Symbol, isDigitLike d = false → d ∉ s := by
    rintro d other mem
    rw [row d mem] at other
    cases other
  have unsigned : readSigned? s = (readDigits? s).map Int.ofNat := by
    unfold readSigned?
    split
    · exact absurd List.mem_cons_self (absent (.char '-') (by decide))
    · exact absurd List.mem_cons_self (absent (.char '+') (by decide))
    · rfl
  rw [readInt?, trim_eq_self fun d mem => not_isNumeralBlank_of_isDigitLike (row d mem), unsigned,
    Option.map_eq_some_iff]
  refine exists_congr fun n => ?_
  rw [readDigits?_eq_some (absent (.char '_') (by decide)), and_comm]
  exact and_congr_left fun _ => eq_comm

end ProxyFleet.Text
