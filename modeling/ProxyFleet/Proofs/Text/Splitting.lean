import Mathlib.Data.List.Basic
import Mathlib.Data.List.TakeWhile
import ProxyFleet.Text.Basic

/-!
# Taking texts apart

A text is taken apart at what it begins with and at the first occurrence of a symbol; replacing one
symbol by another can be taken back when the other one did not occur.
-/

namespace ProxyFleet.Text

variable {c d : Symbol} {s t start rest : Text}

/-- What stands after a start is what completes it to the text. -/
lemma after?_eq_some : after? start s = some rest ↔ start ++ rest = s :=
  List.isPrefixOf?_eq_some_iff_append_eq

/-- A text breaks at the first of its separators. -/
lemma breakAt_append (h : c ∉ s) : breakAt c (s ++ c :: t) = (s, c :: t) := by
  have other : ∀ d ∈ s, decide (d ≠ c) = true := fun d mem =>
    decide_eq_true fun eq => h (eq ▸ mem)
  simp only [breakAt, List.takeWhile_append_of_pos other, List.dropWhile_append_of_pos other]
  simp

/-- A text without separators does not break. -/
lemma breakAt_of_not_mem (h : c ∉ s) : breakAt c s = (s, []) := by
  have other : ∀ d ∈ s, decide (d ≠ c) = true := fun d mem =>
    decide_eq_true fun eq => h (eq ▸ mem)
  simp only [breakAt, List.takeWhile_eq_self_iff.mpr other, List.dropWhile_eq_nil_iff.mpr other]

/-- Where a text is broken the symbol stands for the first time. -/
lemma breakAt_eq_cons (h : breakAt c s = (t, d :: rest)) : s = t ++ c :: rest ∧ c ∉ t := by
  obtain ⟨taken, left⟩ := Prod.mk.inj h
  have whole : t ++ d :: rest = s := by
    rw [← taken, ← left, List.takeWhile_append_dropWhile]
  have eq : d = c := by
    have stopped := List.head?_dropWhile_not (fun e => decide (e ≠ c)) s
    rw [left] at stopped
    simpa using stopped
  refine ⟨by rw [← whole, eq], fun mem => ?_⟩
  rw [← taken] at mem
  simpa using List.mem_takeWhile_imp mem

/-- A piece is split off by prepending what has been read of it. -/
lemma splitFrom_eq (c : Symbol) (piece s : Text) :
    splitFrom c piece s = s.splitOnPPrepend (· == c) piece := by
  induction s generalizing piece with
  | nil => rfl
  | cons d rest ih =>
    rw [splitFrom, List.splitOnPPrepend_cons_eq_if, ih, ih]
    simp

/-- The pieces of a text are those of the list of its symbols. -/
lemma split_eq_splitOn (c : Symbol) (s : Text) : split c s = s.splitOn c := by
  rw [split, splitFrom_eq, List.splitOn_eq_splitOnP, List.splitOnP_eq_splitOnPPrepend]

/-- A symbol of joined pieces is one of the separator or of a piece. -/
lemma mem_join {separator : Text} {pieces : List Text} (h : c ∈ join separator pieces) :
    c ∈ separator ∨ ∃ piece ∈ pieces, c ∈ piece := by
  induction pieces with
  | nil => cases h
  | cons piece pieces ih =>
    rcases pieces with _ | ⟨next, pieces⟩
    · exact .inr ⟨piece, List.mem_cons_self, by simpa [join] using h⟩
    · rw [join, List.intercalate_cons_cons, List.mem_append, List.mem_append] at h
      rcases h with (mem | mem) | mem
      · exact .inr ⟨piece, List.mem_cons_self, mem⟩
      · exact .inl mem
      · exact (ih mem).imp_right fun ⟨p, found, mem⟩ => ⟨p, List.mem_cons_of_mem _ found, mem⟩

/-- What stands around the last of a symbol is determined by the text. -/
lemma append_cons_inj {s' t' : Text} (h : s ++ c :: t = s' ++ c :: t') (ht : c ∉ t)
    (ht' : c ∉ t') : s = s' ∧ t = t' := by
  have around : ∀ {s t : Text}, c ∉ t →
      breakAt c (s ++ c :: t).reverse = (t.reverse, c :: s.reverse) := by
    intro s t ht
    have mirrored : (s ++ c :: t).reverse = t.reverse ++ c :: s.reverse := by simp
    rw [mirrored]
    exact breakAt_append (by simpa using ht)
  have same := (around ht).symm.trans (h ▸ around ht')
  simpa [and_comm] using same

/-- Symbols that are stripped off the end of a text are the same one. -/
lemma exists_stripEnd (c : Symbol) (s : Text) :
    ∃ tail, s = stripEnd c s ++ tail ∧ ∀ d ∈ tail, d = c := by
  refine ⟨(s.reverse.takeWhile (· == c)).reverse, ?_, fun d mem => ?_⟩
  · rw [stripEnd, dropEnd, ← List.reverse_append, List.takeWhile_append_dropWhile,
      List.reverse_reverse]
  · simpa using List.mem_takeWhile_imp (List.mem_reverse.mp mem)

/-- A text that is stripped at its end does not end in the stripped symbol. -/
lemma stripEnd_ne_append (c : Symbol) (s t : Text) : stripEnd c s ≠ t ++ [c] := by
  intro eq
  have mirrored : s.reverse.dropWhile (· == c) = c :: t.reverse := by
    rw [← List.reverse_reverse (List.dropWhile _ _)]
    exact (congrArg List.reverse eq).trans List.reverse_concat
  have stopped := List.head?_dropWhile_not (· == c) s.reverse
  rw [mirrored] at stopped
  simp at stopped

/-- A symbol is replaced in one part and in the other. -/
lemma replace_append : replace c start (s ++ t) = replace c start s ++ replace c start t :=
  List.flatMap_append

/-- A text without the symbol is left as it is. -/
lemma replace_eq_self (h : c ∉ s) : replace c start s = s := by
  induction s with
  | nil => rfl
  | cons d s ih =>
    obtain ⟨first, others⟩ := not_or.mp (mt List.mem_cons.mpr h)
    have ih := ih others
    unfold replace at ih ⊢
    rw [List.flatMap_cons, if_neg (Ne.symm first), ih]
    rfl

/-- What is left after a replacement is the new symbol or was there. -/
lemma mem_replace {e : Symbol} (h : e ∈ replace c [d] s) : e = d ∨ e ∈ s := by
  obtain ⟨b, mem, new⟩ := List.mem_flatMap.mp h
  split at new
  · exact .inl (List.mem_singleton.mp new)
  · exact .inr (List.mem_singleton.mp new ▸ mem)

/-- A symbol that is replaced is gone. -/
lemma not_mem_replace (h : c ≠ d) : c ∉ replace c [d] s := by
  intro mem
  obtain ⟨b, -, new⟩ := List.mem_flatMap.mp mem
  split at new
  case isTrue => exact h (List.mem_singleton.mp new)
  case isFalse other => exact other (List.mem_singleton.mp new).symm

/-- A replacement by a symbol leaves no text empty. -/
lemma replace_ne_nil (h : s ≠ []) : replace c [d] s ≠ [] := by
  cases s with
  | nil => exact absurd rfl h
  | cons e s =>
    unfold replace
    rw [List.flatMap_cons]
    split <;> exact List.cons_ne_nil _ _

/-- Replacing one symbol by another that did not occur can be taken back. -/
lemma replace_replace (h : d ∉ s) : replace d [c] (replace c [d] s) = s := by
  induction s with
  | nil => rfl
  | cons e s ih =>
    obtain ⟨first, others⟩ := not_or.mp (mt List.mem_cons.mpr h)
    have ih := ih others
    unfold replace at ih ⊢
    by_cases eq : e = c
    · simpa [eq] using ih
    · simpa [eq, Ne.symm first] using ih

/-- A symbol that is replaced may have been put in the place of the replacement before. -/
lemma replace_absorb (c d : Symbol) (s : Text) :
    replace c [d] (replace d [c] s) = replace c [d] s := by
  induction s with
  | nil => rfl
  | cons e s ih =>
    unfold replace at ih ⊢
    by_cases eq : e = d
    · simpa [eq, apply_ite] using ih
    · simpa [eq] using ih

end ProxyFleet.Text
