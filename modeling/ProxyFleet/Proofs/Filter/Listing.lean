import ProxyFleet.Filter.Listing
import ProxyFleet.Proofs.Filter.Arrangement
import ProxyFleet.Proofs.Outcome

/-!
# What a listing holds

A listing counts the items that satisfy the evaluated conditions and shows some of them: whatever
the sort, it only moves them, and a page is a part of them.
-/

namespace ProxyFleet.Listing
open scoped List

variable {α : Type} {attr : α → Text → Value} {fields : Option (List Text)} {f : Filter}
  {field : Text} {direction : Direction} {less? : α → α → Option Bool} {xs ys : List α}

/-- What is arranged by a key is a rearrangement. -/
lemma arranged_perm (h : arranged less? direction xs = some ys) : ys ~ xs := by
  cases direction with
  | ascending => exact Arrangement.arrange_perm h
  | descending =>
    obtain ⟨turned, arranged, rfl⟩ := Option.map_eq_some_iff.mp h
    calc turned.reverse
      _ ~ turned := turned.reverse_perm
      _ ~ xs.reverse := Arrangement.arrange_perm arranged
      _ ~ xs := xs.reverse_perm

/-- What is sorted by an attribute is a rearrangement. -/
lemma sorted_perm (h : sorted attr field direction xs = .ok ys) : ys ~ xs := by
  unfold sorted at h
  split at h
  · cases h
    exact List.mergeSort_perm _ _
  · split at h
    · rename_i arranged
      cases h
      exact arranged_perm arranged
    · cases h

/-- Items as the sort of a filter arranges them; without a sort they stay as they are. -/
def inOrder (attr : α → Text → Value) : Option (Text × Direction) → List α → Except Failure (List α)
  | none, xs => .ok xs
  | some (field, direction), xs => sorted attr field direction xs

/-- What is put in the order of a filter is a rearrangement. -/
lemma inOrder_perm {sort : Option (Text × Direction)} (h : inOrder attr sort xs = .ok ys) :
    ys ~ xs := by
  cases sort with
  | none =>
    cases h
    exact .refl _
  | some by_ => exact sorted_perm h

/-- A listing in three steps: what is selected, in which order, and which part of it is shown. -/
lemma ofFilter_eq : ofFilter attr fields f xs = do
    let all ← inOrder attr f.sort (select attr (evaluated fields f.conditions) xs)
    if !f.unpaged.isBlank then return ⟨all, all.length⟩
    let page ← cut f.page f.limit all
    return ⟨page, all.length⟩ := by
  unfold ofFilter
  cases f.sort <;> rfl

/-- A page is a stretch of the list. -/
lemma infix_of_cut {page limit : Extent} (h : cut page limit xs = .ok ys) : ys <:+: xs := by
  unfold cut at h
  split at h
  · cases h
    exact (List.take_prefix _ _).isInfix.trans (List.drop_suffix _ _).isInfix
  · cases h

/-- What is selected is in the list and satisfies every condition. -/
lemma mem_select {conditions : List Condition} {x : α} : x ∈ select attr conditions xs ↔
    x ∈ xs ∧ ∀ c ∈ conditions, satisfies attr c x = true := by
  simp [select]

/-- The conditions that are evaluated are those on the given fields. -/
lemma mem_evaluated {conditions : List Condition} {c : Condition} :
    c ∈ evaluated fields conditions ↔ c ∈ conditions ∧ ∀ names ∈ fields, c.field ∈ names := by
  cases fields <;> simp [evaluated]

/-- Every evaluated condition holds where every condition on the given fields does. -/
lemma all_evaluated {conditions : List Condition} {p : Condition → Bool} :
    (evaluated fields conditions).all p = true ↔
      ∀ c ∈ conditions, (∀ names ∈ fields, c.field ∈ names) → p c = true := by
  rw [List.all_eq_true]
  constructor
  · intro holds c given known
    exact holds c (mem_evaluated.mpr ⟨given, known⟩)
  · intro holds c mem
    obtain ⟨given, known⟩ := mem_evaluated.mp mem
    exact holds c given known

/-- The items that are selected are those that satisfy every condition that is evaluated. -/
lemma select_evaluated {conditions : List Condition} :
    select attr (evaluated fields conditions) xs = xs.filter fun x =>
      ∀ c ∈ conditions, (∀ names ∈ fields, c.field ∈ names) → satisfies attr c x = true := by
  refine List.filter_congr fun x _ => ?_
  rw [Bool.eq_iff_iff, all_evaluated, decide_eq_true_iff]

/-- A part of a list that has every element of a kind has these elements in the same order. -/
lemma filter_eq_of_sublist {p : α → Bool} (part : ys <+ xs) (whole : xs.filter p <+ ys) :
    ys.filter p = xs.filter p := by
  have same : (xs.filter p).filter p = xs.filter p := by simp
  exact (part.filter p).antisymm (same ▸ whole.filter p)

/-- A listing depends only on the items that satisfy the evaluated conditions. -/
lemma ofFilter_congr (h : select attr (evaluated fields f.conditions) xs =
      select attr (evaluated fields f.conditions) ys) :
    ofFilter attr fields f xs = ofFilter attr fields f ys := by
  unfold ofFilter
  rw [h]

/-- Without a sort and without pages a listing shows the items that satisfy the conditions. -/
lemma ofFilter_unpaged (unsorted : f.sort = none) (unpaged : f.unpaged = .bool true) :
    ofFilter attr fields f xs = .ok ⟨select attr (evaluated fields f.conditions) xs,
      (select attr (evaluated fields f.conditions) xs).length⟩ := by
  rw [ofFilter_eq, unsorted, unpaged]
  rfl

/-- The items of a listing are found among those that its total counts, which are the ones that
satisfy the evaluated conditions. -/
lemma ofFilter_ok {listing : Listing α} (h : ofFilter attr fields f xs = .ok listing) :
    ∃ chosen, chosen ~ select attr (evaluated fields f.conditions) xs ∧
      listing.items <:+: chosen ∧ listing.total = chosen.length := by
  rw [ofFilter_eq] at h
  obtain ⟨chosen, ordered, h⟩ := bind_eq_ok.mp h
  refine ⟨chosen, inOrder_perm ordered, ?_⟩
  split at h
  · cases h
    exact ⟨List.infix_rfl, rfl⟩
  · obtain ⟨page, part, h⟩ := bind_eq_ok.mp h
    cases h
    exact ⟨infix_of_cut part, rfl⟩

end ProxyFleet.Listing
