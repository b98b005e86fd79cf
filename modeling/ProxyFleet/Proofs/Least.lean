import Mathlib.Data.List.Nodup
import Mathlib.Data.List.Perm.Subperm
import Mathlib.Order.Bounds.Basic
import ProxyFleet.Least

/-!
# The least free number is free and least

Of one more candidate than there are holders one is always free, so that the search never falls back
to its start; and candidates are looked at in order, so that no smaller number is free.
-/

namespace ProxyFleet

/-- Candidates that are more than the used ones, and all different, are not all used. -/
lemma exists_unused {α : Type} {f : Nat → α} (distinct : Function.Injective f) (used : List α) :
    ∃ i < used.length + 1, f i ∉ used := by
  by_contra all
  push Not at all
  have held : (List.range (used.length + 1)).map f ⊆ used := by
    intro a mem
    obtain ⟨i, bound, rfl⟩ := List.mem_map.mp mem
    exact all i (List.mem_range.mp bound)
  have short := ((List.nodup_range.map distinct).subperm held).length_le
  rw [List.length_map, List.length_range] at short
  omega

/-- The first candidate that passes a check is found. -/
lemma find?_candidates {α : Type} {f : Nat → α} {p : α → Bool} {count : Nat} {a : α} :
    ((List.range count).map f).find? p = some a ↔
      ∃ i < count, f i = a ∧ p a = true ∧ ∀ j < i, p (f j) = false := by
  rw [List.find?_map, Option.map_eq_some_iff]
  refine exists_congr fun i => ?_
  rw [List.find?_range_eq_some]
  constructor
  · rintro ⟨⟨passes, mem, earlier⟩, rfl⟩
    exact ⟨List.mem_range.mp mem, rfl, passes, by simpa using earlier⟩
  · rintro ⟨bound, rfl, passes, earlier⟩
    exact ⟨⟨passes, List.mem_range.mpr bound, by simpa using earlier⟩, rfl⟩

/-! ## Whole numbers -/

/-- No candidate is tried twice. -/
lemma candidates_distinct (start : Int) : Function.Injective fun i : Nat => start + (i : Int) :=
  fun i j (eq : start + (i : Int) = start + (j : Int)) => by omega

/-- The number that is given out is the least one from the start on that is not used. -/
lemma isLeast_leastFree (used : List Int) (start : Int) :
    IsLeast {n | start ≤ n ∧ n ∉ used} (leastFree used start) := by
  obtain ⟨i, bound, free⟩ := exists_unused (candidates_distinct start) used
  obtain ⟨found, first⟩ : ∃ found, ((List.range (used.length + 1)).map fun i : Nat =>
      start + (i : Int)).find? (fun n => !used.contains n) = some found :=
    Option.isSome_iff_exists.mp (List.find?_isSome.mpr
      ⟨_, List.mem_map_of_mem (List.mem_range.mpr bound), by simpa using free⟩)
  have eq : leastFree used start = found := by
    unfold leastFree
    dsimp only
    rw [first]
    rfl
  obtain ⟨k, -, rfl, unused, earlier⟩ := find?_candidates.mp first
  rw [eq]
  refine ⟨⟨by omega, by simpa using unused⟩, fun n ⟨behind, free⟩ => ?_⟩
  -- a smaller number would be a candidate that was looked at before
  by_contra less
  have taken := earlier (n - start).toNat (by omega)
  have back : start + ((n - start).toNat : Int) = n := by omega
  rw [back] at taken
  simp [free] at taken

/-- A free number is found before the used ones are passed. -/
lemma leastFree_le (used : List Int) (start : Int) :
    leastFree used start ≤ start + used.length := by
  obtain ⟨i, bound, free⟩ := exists_unused (candidates_distinct start) used
  have := (isLeast_leastFree used start).2 ⟨by omega, free⟩
  omega

/-! ## A bounded search -/

variable {taken : Nat → Bool} {start count n : Nat}

/-- No candidate is found where all of them are taken. -/
lemma firstFree?_eq_none :
    firstFree? taken start count = none ↔ ∀ i < count, taken (start + i) = true := by
  simp [firstFree?, List.find?_eq_none]

/-- The first free candidate is found, and those before it are taken. -/
lemma firstFree?_eq_some : firstFree? taken start count = some n ↔
    ∃ i < count, start + i = n ∧ taken n = false ∧ ∀ j < i, taken (start + j) = true := by
  rw [firstFree?, find?_candidates]
  simp

end ProxyFleet
