import Mathlib.Data.List.Induction
import Mathlib.Tactic.Common
import ProxyFleet.Keyed

/-!
# Keyed lists as maps

A keyed list stands for a map: `get?` is all that matters about it. The last of several pairs that
are written under one key counts, and keys that were different stay different.
-/

namespace ProxyFleet

/-! ## Each once, the first one counts -/

section

variable {α β : Type} [BEq α] [LawfulBEq α] [BEq β] [LawfulBEq β]

/-- One more element is kept if it is new. -/
lemma eraseDups_concat (xs : List α) (x : α) :
    (xs ++ [x]).eraseDups = if x ∈ xs then xs.eraseDups else xs.eraseDups ++ [x] := by
  rw [List.eraseDups_append]
  by_cases mem : x ∈ xs <;> simp [List.removeAll, mem, List.eraseDups_cons]

/-- An injective function respects duplicates. -/
lemma eraseDups_map {f : α → β} (inj : Function.Injective f) (xs : List α) :
    (xs.map f).eraseDups = xs.eraseDups.map f := by
  induction xs using List.reverseRecOn with
  | nil => rfl
  | append_singleton xs x ih =>
    rw [List.map_append, List.map_singleton, eraseDups_concat, eraseDups_concat, ih]
    simp only [List.mem_map, inj.eq_iff, exists_eq_right]
    split
    · rfl
    · rw [List.map_append, List.map_singleton]

end

namespace Keyed

/-! ## Reading and writing -/

variable {κ α β : Type} [DecidableEq κ] {pairs new : List (κ × α)}

/-- A key has no value just where it is not among the keys. -/
lemma get?_eq_none {key : κ} : get? key pairs = none ↔ key ∉ keys pairs := by
  induction pairs with
  | nil => simp [get?, keys]
  | cons p rest ih =>
    by_cases h : p.1 = key
    · simp [get?, keys, h]
    · simpa [get?, keys, h, Ne.symm h] using ih

/-- A value that is found belongs to its key. -/
lemma mem_of_get? {key : κ} {value : α} (h : get? key pairs = some value) :
    (key, value) ∈ pairs := by
  induction pairs with
  | nil => cases h
  | cons p rest ih =>
    obtain ⟨k, v⟩ := p
    by_cases eq : k = key
    · simp only [get?, eq, if_true, Option.some.injEq] at h
      rw [eq, h]
      exact List.mem_cons_self
    · simp only [get?, eq, if_false] at h
      exact List.mem_cons_of_mem _ (ih h)

/-- A key among the keys has a value. -/
lemma exists_get?_of_mem {key : κ} (h : key ∈ keys pairs) : ∃ value, get? key pairs = some value :=
  Option.ne_none_iff_exists'.mp (mt get?_eq_none.mp (not_not.mpr h))

/-- A pair of distinct keys is found by its key. -/
lemma get?_of_mem {key : κ} {value : α} (nodup : (keys pairs).Nodup) (h : (key, value) ∈ pairs) :
    get? key pairs = some value := by
  induction pairs with
  | nil => cases h
  | cons p rest ih =>
    obtain ⟨k, v⟩ := p
    obtain ⟨fresh, nodup⟩ := List.nodup_cons.mp nodup
    rcases List.mem_cons.mp h with eq | mem
    · cases eq
      simp [get?]
    · have other : k ≠ key := by
        rintro rfl
        exact fresh (List.mem_map.mpr ⟨_, mem, rfl⟩)
      simpa [get?, other] using ih nodup mem

/-- The first of two lists that has a key counts. -/
lemma get?_append (key : κ) (xs ys : List (κ × α)) :
    get? key (xs ++ ys) = (get? key xs).or (get? key ys) := by
  induction xs with
  | nil => rfl
  | cons p rest ih =>
    by_cases h : p.1 = key
    · simp [get?, h]
    · simpa [get?, h] using ih

/-- A key that is there already keeps its value. -/
lemma get?_putNew (key k : κ) (value : α) (pairs : List (κ × α)) :
    get? k (putNew key value pairs) =
      (get? k pairs).or (if key = k then some value else none) := by
  unfold putNew has
  rcases found : get? key pairs with _ | old
  · rw [if_neg (by simp), get?_append]
    rfl
  · rw [if_pos (by simp)]
    by_cases same : key = k
    · rw [← same, found]
      rfl
    · rw [if_neg same, Option.or_none]

/-- A key is there just where it is among the keys. -/
lemma has_eq_true {key : κ} : has key pairs = true ↔ key ∈ keys pairs := by
  rw [has, Option.isSome_iff_ne_none, Ne, get?_eq_none, not_not]

/-- Distinct keys have the same values in reverse order. -/
lemma get?_reverse (nodup : (keys pairs).Nodup) (key : κ) :
    get? key pairs.reverse = get? key pairs := by
  induction pairs with
  | nil => rfl
  | cons p rest ih =>
    obtain ⟨k, v⟩ := p
    obtain ⟨fresh, nodup⟩ := List.nodup_cons.mp nodup
    rw [List.reverse_cons, get?_append, ih nodup]
    by_cases h : k = key
    · subst h
      simp [get?, get?_eq_none.mpr fresh]
    · simp [get?, h]

/-- Mapped values are found by the same keys. -/
lemma get?_map (f : κ → α → β) (key : κ) :
    get? key (pairs.map fun p => (p.1, f p.1 p.2)) = (get? key pairs).map (f key) := by
  induction pairs with
  | nil => rfl
  | cons p rest ih =>
    by_cases h : p.1 = key
    · simp [get?, h]
    · simpa [get?, h] using ih

/-- Of pairs that are chosen by their keys. -/
lemma get?_filter (P : κ → Prop) [DecidablePred P] (key : κ) (pairs : List (κ × α)) :
    get? key (pairs.filter fun q => P q.1) = if P key then get? key pairs else none := by
  induction pairs with
  | nil => simp [get?]
  | cons q rest ih =>
    by_cases same : q.1 = key
    · subst same
      by_cases chosen : P q.1 <;> simp [get?, chosen, ih]
    · by_cases chosen : P q.1 <;> simp [get?, chosen, same, ih]

/-- A key that is put is added last if it is new. -/
lemma keys_put (key : κ) (value : α) (pairs : List (κ × α)) :
    keys (put key value pairs) = if key ∈ keys pairs then keys pairs else keys pairs ++ [key] := by
  induction pairs with
  | nil => simp [put, keys]
  | cons p rest ih =>
    obtain ⟨k, v⟩ := p
    by_cases h : k = key
    · simp [put, keys, h]
    · have unfolded : keys (put key value ((k, v) :: rest)) = k :: keys (put key value rest) := by
        simp [put, keys, h]
      rw [unfolded, ih]
      by_cases mem : key ∈ keys rest <;> simp_all [keys, Ne.symm h]

/-- Distinct keys stay distinct when one is put. -/
lemma nodup_put (key : κ) (value : α) (nodup : (keys pairs).Nodup) :
    (keys (put key value pairs)).Nodup := by
  rw [keys_put]
  split
  case isTrue => exact nodup
  case isFalse h => exact List.nodup_append.mpr ⟨nodup, by simp, by
    rintro k mem _ new rfl
    exact h (List.mem_singleton.mp new ▸ mem)⟩

/-- A pair after a put is the one that was put or one that was there. -/
lemma of_mem_put {key : κ} {value : α} {q : κ × α} (h : q ∈ put key value pairs) :
    q = (key, value) ∨ q ∈ pairs := by
  induction pairs with
  | nil => exact .inl (List.mem_singleton.mp h)
  | cons p rest ih =>
    obtain ⟨k, v⟩ := p
    unfold put at h
    split at h <;> rcases List.mem_cons.mp h with first | mem
    · subst k
      exact .inl first
    · exact .inr (List.mem_cons_of_mem _ mem)
    · exact .inr (first ▸ List.mem_cons_self)
    · exact (ih mem).imp_right (List.mem_cons_of_mem _)

/-- A value that is put for a new key stands last. -/
lemma put_of_not_mem {key : κ} (value : α) (h : key ∉ keys pairs) :
    put key value pairs = pairs ++ [(key, value)] := by
  induction pairs with
  | nil => rfl
  | cons p rest ih =>
    obtain ⟨k, v⟩ := p
    obtain ⟨other, fresh⟩ := not_or.mp (mt List.mem_cons.mpr h)
    have other : k ≠ key := Ne.symm other
    simp [put, other, ih fresh]

omit [DecidableEq κ] in
/-- Keys that are new and different stay new when the first one of them has been written. -/
lemma fresh_behind {p : κ × α} (nodup : (keys (p :: new)).Nodup)
    (fresh : ∀ k ∈ keys (p :: new), k ∉ keys pairs) : ∀ k ∈ keys new, k ∉ keys (pairs ++ [p]) := by
  intro k mem found
  rw [keys, List.map_append, List.mem_append] at found
  rcases found with found | found
  · exact fresh k (List.mem_cons_of_mem _ mem) found
  · cases List.mem_singleton.mp found
    exact (List.nodup_cons.mp nodup).1 mem

/-- Pairs with new and different keys are written behind the others. -/
lemma putAll_of_fresh (nodup : (keys new).Nodup) (fresh : ∀ k ∈ keys new, k ∉ keys pairs) :
    putAll pairs new = pairs ++ new := by
  induction new generalizing pairs with
  | nil => simp [putAll]
  | cons p rest ih =>
    have first : put p.1 p.2 pairs = pairs ++ [p] :=
      put_of_not_mem p.2 (fresh p.1 List.mem_cons_self)
    have written : putAll pairs (p :: rest) = putAll (put p.1 p.2 pairs) rest := rfl
    rw [written, first, ih (List.nodup_cons.mp nodup).2 (fresh_behind nodup fresh),
      List.append_assoc, List.singleton_append]

/-- Distinct keys stay distinct when several are put. -/
lemma nodup_putAll (nodup : (keys pairs).Nodup) (new : List (κ × α)) :
    (keys (putAll pairs new)).Nodup := by
  unfold putAll
  induction new generalizing pairs with
  | nil => exact nodup
  | cons p rest ih => exact ih (nodup_put p.1 p.2 nodup)

omit [DecidableEq κ] in
/-- No keys are distinct. -/
lemma nodup_nil : (keys ([] : List (κ × α))).Nodup := List.nodup_nil

/-- Keys that are put one after another are distinct. -/
lemma nodup_ofList (new : List (κ × α)) : (keys (ofList new)).Nodup := nodup_putAll nodup_nil new

/-- Of the pairs that are written the last one of a key counts, and otherwise what was there. -/
lemma get?_putAll (key : κ) (pairs new : List (κ × α)) :
    get? key (putAll pairs new) = (get? key new.reverse).or (get? key pairs) := by
  unfold putAll
  induction new generalizing pairs with
  | nil => rfl
  | cons p rest ih =>
    obtain ⟨k, v⟩ := p
    -- the pair that is written first counts only where no later one has its key
    simp only [List.foldl_cons, ih, get?_put, List.reverse_cons, get?_append]
    by_cases h : k = key <;> cases get? key rest.reverse <;> simp [get?, h]

/-- The keys of a keyed list are in the order in which they were written first. -/
lemma keys_ofList [BEq κ] [LawfulBEq κ] (new : List (κ × α)) :
    keys (ofList new) = (keys new).eraseDups := by
  induction new using List.reverseRecOn with
  | nil => rfl
  | append_singleton new p ih =>
    have last : ofList (new ++ [p]) = put p.1 p.2 (ofList new) := by simp [ofList, putAll]
    have behind : keys (new ++ [p]) = keys new ++ [p.1] := by simp [keys]
    rw [last, behind, keys_put, eraseDups_concat, ih]
    simp only [List.mem_eraseDups]

/-- The last value that is put for a key is the one found. -/
lemma get?_ofList (key : κ) (new : List (κ × α)) :
    get? key (ofList new) = get? key new.reverse := by
  rw [ofList, get?_putAll]
  simp [get?]

/-- Writing pairs with different keys gives their list. -/
lemma get?_putAll_of_nodup (key : κ) (nodup : (keys new).Nodup) (pairs : List (κ × α)) :
    get? key (putAll pairs new) = (get? key new).or (get? key pairs) := by
  rw [get?_putAll, get?_reverse nodup]

end Keyed

end ProxyFleet
