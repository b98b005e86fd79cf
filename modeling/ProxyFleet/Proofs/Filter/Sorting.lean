import Mathlib
import ProxyFleet.Proofs.Filter.Listing

/-!
# Sorting

A filter sorts its items by their keys under one field: whole numbers by their value, truth values
among them, or texts by their code points. Missing keys come last, or first when the sort descends.
In both directions items with equal keys keep the order in which they came, so that a descending
sort is an ascending one of the items turned round, turned round again.
-/

namespace ProxyFleet
open scoped List

/-! ## Stable sorts -/

/-- Whether a list is another one sorted by a relation, elements that the relation does not tell
apart being in the order that they had. -/
structure SortsStably {α : Type} (R : α → α → Prop) [DecidableRel R] (xs ys : List α) : Prop where
  perm : ys ~ xs
  ordered : ys.Pairwise R
  ties : ∀ x, (ys.filter fun y => R x y ∧ R y x) = xs.filter fun y => R x y ∧ R y x

namespace SortsStably

variable {α : Type} {R : α → α → Prop} [DecidableRel R] {xs ys zs : List α}

/-- A merge sort by a total and transitive relation sorts stably. -/
lemma mergeSort (trans : ∀ x y z, R x y → R y z → R x z) (total : ∀ x y, R x y ∨ R y x)
    (xs : List α) : SortsStably R xs (xs.mergeSort fun x y => R x y) := by
  have trans' : ∀ x y z, decide (R x y) = true → decide (R y z) = true →
      decide (R x z) = true := by
    simpa using trans
  have total' : ∀ x y, (decide (R x y) || decide (R y x)) = true := by simpa using total
  have perm := List.mergeSort_perm xs fun x y => R x y
  refine ⟨perm, by simpa using List.pairwise_mergeSort trans' total' xs, fun x => ?_⟩
  -- elements that are tied with `x` are in order already, so that sorting keeps their sublist
  have tied : (xs.filter fun y => R x y ∧ R y x).Pairwise fun y z => decide (R y z) = true := by
    refine List.pairwise_of_forall_mem_list fun y mem z mem' => ?_
    have tied := (List.mem_filter.mp mem).2
    have tied' := (List.mem_filter.mp mem').2
    rw [decide_eq_true_iff] at tied tied' ⊢
    exact trans y x z tied.2 tied'.1
  have kept := (List.sublist_mergeSort trans' total' tied List.filter_sublist).filter
    fun y => decide (R x y ∧ R y x)
  rw [List.filter_filter] at kept
  simp only [Bool.and_self] at kept
  exact (kept.eq_of_length (perm.filter _).length_eq.symm).symm

/-- Two lists that are sorted, and in which the same elements are tied in the same order, are
equal. -/
lemma eq_of_ties (refl : ∀ x, R x x) (hy : ys.Pairwise R) (hz : zs.Pairwise R)
    (ties : ∀ x, (ys.filter fun y => R x y ∧ R y x) = zs.filter fun y => R x y ∧ R y x) :
    ys = zs := by
  have mem_of : ∀ {us vs : List α}, (∀ x, (us.filter fun y => R x y ∧ R y x) =
      vs.filter fun y => R x y ∧ R y x) → ∀ x ∈ us, x ∈ vs := by
    intro us vs ties x mem
    have tied : x ∈ us.filter fun y => R x y ∧ R y x :=
      List.mem_filter.mpr ⟨mem, by simp [refl x]⟩
    rw [ties x] at tied
    exact List.mem_of_mem_filter tied
  induction ys generalizing zs with
  | nil =>
    refine (List.eq_nil_iff_forall_not_mem.mpr fun z mem => ?_).symm
    exact absurd (mem_of (fun x => (ties x).symm) z mem) List.not_mem_nil
  | cons y ys ih =>
    cases zs with
    | nil => exact absurd (mem_of ties y List.mem_cons_self) List.not_mem_nil
    | cons z zs =>
      obtain ⟨first, ordered⟩ := List.pairwise_cons.mp hy
      obtain ⟨first', ordered'⟩ := List.pairwise_cons.mp hz
      -- either head stands before the other one, so they are tied
      have yz : R y z := by
        rcases List.mem_cons.mp (mem_of (fun x => (ties x).symm) z List.mem_cons_self) with
          rfl | mem
        · exact refl z
        · exact first z mem
      have zy : R z y := by
        rcases List.mem_cons.mp (mem_of ties y List.mem_cons_self) with rfl | mem
        · exact refl y
        · exact first' y mem
      have heads := ties y
      rw [List.filter_cons_of_pos (by simp [refl y]),
        List.filter_cons_of_pos (by simp [yz, zy])] at heads
      obtain rfl : y = z := (List.cons.inj heads).1
      refine congrArg (y :: ·) (ih ordered ordered' fun x => ?_)
      have tails := ties x
      rw [List.filter_cons, List.filter_cons] at tails
      split at tails
      · exact (List.cons.inj tails).2
      · exact tails

/-- There is one way to sort a list. -/
lemma unique (refl : ∀ x, R x x) (h : SortsStably R xs ys) (h' : SortsStably R xs zs) : ys = zs :=
  eq_of_ties refl h.ordered h'.ordered fun x => (h.ties x).trans (h'.ties x).symm

/-- Turned round, a list is sorted the other way. -/
lemma reverse (h : SortsStably R xs ys) :
    SortsStably (fun x y => R y x) xs.reverse ys.reverse where
  perm := ys.reverse_perm.trans (h.perm.trans xs.reverse_perm.symm)
  ordered := List.pairwise_reverse.mpr h.ordered
  ties x := by
    have ties := congrArg List.reverse (h.ties x)
    simpa only [List.filter_reverse, and_comm] using ties

end SortsStably

/-! ## Sort keys -/

/-- No character has the code point of half of a surrogate pair. -/
lemma Symbol.point_injective : Function.Injective point := by
  have apart : ∀ (c : Char) (i : Fin 2048), c.toNat ≠ 0xd800 + i := by
    intro c i eq
    rcases c.valid with low | ⟨high, -⟩
    · have : c.toNat < 0xd800 := low
      omega
    · have : 0xdfff < c.toNat := high
      omega
  intro x y eq
  cases x with
  | char c =>
    cases y with
    | char d => exact congrArg char (Char.toNat_inj.mp eq)
    | half i => exact absurd eq (apart c i)
  | half i =>
    cases y with
    | char d => exact absurd eq.symm (apart d i)
    | half j => exact congrArg half (Fin.ext (Nat.add_left_cancel eq))

namespace Value

/-- The whole number that a value is, truth values included. -/
def whole? : Value → Option ℤ
  | bool b => some (if b then 1 else 0)
  | int n => some n
  | _ => none

/-- Where a sort key stands: a whole number by its value, a text by its code points, and anything
else behind all of them. -/
def rank : Value → WithTop (ℤ ×ₗ List ℕ)
  | bool b => (toLex (if b then 1 else 0, []) : ℤ ×ₗ List ℕ)
  | int n => (toLex (n, []) : ℤ ×ₗ List ℕ)
  | str s => (toLex (0, s.map Symbol.point) : ℤ ×ₗ List ℕ)
  | _ => ⊤

/-- Whether values can be sort keys of one list: missing ones apart, all of them are whole numbers
or truth values, or all of them are texts. -/
def Comparable (keys : List Value) : Prop :=
  (∀ k ∈ keys, k = null ∨ k.whole?.isSome) ∨ ∀ k ∈ keys, k = null ∨ k.isText

variable {a b : Value} {keys : List Value}

/-- The rank of a whole number is the number itself. -/
lemma rank_of_whole {n : ℤ} (h : a.whole? = some n) :
    a.rank = (toLex (n, []) : ℤ ×ₗ List ℕ) := by
  cases a <;> cases h <;> rfl

/-- A whole number counts as itself. -/
lemma number?_of_whole {n : ℤ} (h : a.whole? = some n) : a.number? = some (.exact n) := by
  cases a with
  | bool b => cases h; cases b <;> rfl
  | int n => cases h; rfl
  | _ => cases h

/-- Comparing two whole numbers compares where they stand. -/
lemma compare_of_whole {m n : ℤ} (h : a.whole? = some m) (h' : b.whole? = some n) :
    a.same b = decide (a.rank = b.rank) ∧ a.less? b = some (decide (a.rank < b.rank)) := by
  have number := number?_of_whole h'
  have numbers : a.same b = ((m : ℚ) == n) ∧ a.less? b = some (decide ((m : ℚ) < n)) := by
    cases a with
    | bool c =>
      cases h
      cases c <;> simp [same, less?, number, Binary64.Extended.same, Binary64.Extended.less]
    | int m =>
      cases h
      simp [same, less?, number, Binary64.Extended.same, Binary64.Extended.less]
    | _ => cases h
  rw [rank_of_whole h, rank_of_whole h', numbers.1, numbers.2]
  constructor
  · rw [Bool.eq_iff_iff]
    simp
  · simp [Prod.Lex.toLex_lt_toLex]

/-- Texts are compared by their ranks. -/
lemma compare_of_text {s t : Text} :
    (str s).same (str t) = decide ((str s).rank = (str t).rank) ∧
      (str s).less? (str t) = some (decide ((str s).rank < (str t).rank)) := by
  constructor
  · rw [Bool.eq_iff_iff]
    simp [same, rank, (List.map_injective_iff.mpr Symbol.point_injective).eq_iff]
  · simp [less?, rank, Text.less, Prod.Lex.toLex_lt_toLex]

/-- Two keys of one list: two whole numbers, two texts, or one of them missing at least. -/
inductive Kin : Value → Value → Prop where
  | whole {x y : Value} {m n} : x.whole? = some m → y.whole? = some n → Kin x y
  | text {s t} : Kin (str s) (str t)
  | before {x : Value} : x.rank ≠ ⊤ → Kin x null
  | behind {x : Value} : x.rank ≠ ⊤ → Kin null x
  | missing : Kin null null

/-- Comparable keys are of one kind, missing ones apart. -/
lemma Comparable.kin (h : Comparable keys) (ha : a ∈ keys) (hb : b ∈ keys) : Kin a b := by
  rcases h with whole | text
  · have given : ∀ {k n}, whole? k = some n → k.rank ≠ ⊤ :=
      fun whole => rank_of_whole whole ▸ WithTop.coe_ne_top
    rcases whole a ha with rfl | first <;> rcases whole b hb with rfl | second
    · exact .missing
    · obtain ⟨n, second⟩ := Option.isSome_iff_exists.mp second
      exact .behind (given second)
    · obtain ⟨m, first⟩ := Option.isSome_iff_exists.mp first
      exact .before (given first)
    · obtain ⟨m, first⟩ := Option.isSome_iff_exists.mp first
      obtain ⟨n, second⟩ := Option.isSome_iff_exists.mp second
      exact .whole first second
  · have is : ∀ {k : Value}, k.isText = true → ∃ s, k = str s := by
      intro k text
      cases k <;> first | exact ⟨_, rfl⟩ | cases text
    rcases text a ha with rfl | first <;> rcases text b hb with rfl | second
    · exact .missing
    · obtain ⟨t, rfl⟩ := is second
      exact .behind WithTop.coe_ne_top
    · obtain ⟨s, rfl⟩ := is first
      exact .before WithTop.coe_ne_top
    · obtain ⟨s, rfl⟩ := is first
      obtain ⟨t, rfl⟩ := is second
      exact .text

/-- Given keys are compared by equality first. -/
lemma keyLess?_given (ha : a.rank ≠ ⊤) (hb : b.rank ≠ ⊤) :
    Listing.keyLess? a b = if a.same b then some false else a.less? b := by
  cases a <;> first | exact absurd rfl ha | (cases b <;> first | exact absurd rfl hb | rfl)

/-- Equality and order of keys are those of where they stand. -/
lemma Kin.compare (kin : Kin a b) : a.same b = decide (a.rank = b.rank) ∧
    Listing.keyLess? a b = some (decide (a.rank < b.rank)) := by
  have given : a.rank ≠ ⊤ → b.rank ≠ ⊤ →
      (a.same b = decide (a.rank = b.rank) ∧ a.less? b = some (decide (a.rank < b.rank))) →
      a.same b = decide (a.rank = b.rank) ∧
        Listing.keyLess? a b = some (decide (a.rank < b.rank)) := by
    rintro ha hb ⟨same, less⟩
    refine ⟨same, ?_⟩
    rw [keyLess?_given ha hb, same, less]
    by_cases eq : a.rank = b.rank <;> simp [eq]
  cases kin with
  | whole first second =>
    exact given (rank_of_whole first ▸ WithTop.coe_ne_top)
      (rank_of_whole second ▸ WithTop.coe_ne_top) (compare_of_whole first second)
  | text => exact given WithTop.coe_ne_top WithTop.coe_ne_top compare_of_text
  | before first =>
    have less : Listing.keyLess? a null = some true := by
      cases a <;> first | exact absurd rfl first | rfl
    have other : a.same null = false := by
      cases a <;> first | exact absurd rfl first | rfl
    rw [less, other]
    exact ⟨(decide_eq_false first).symm,
      congrArg some (decide_eq_true (WithTop.lt_top_iff_ne_top.mpr first)).symm⟩
  | behind second =>
    have other : null.same b = false := by
      cases b <;> first | exact absurd rfl second | rfl
    rw [other]
    exact ⟨(decide_eq_false (Ne.symm second)).symm,
      congrArg some (decide_eq_false not_top_lt).symm⟩
  | missing => exact ⟨rfl, rfl⟩

end Value

/-- The other direction. -/
def Direction.opposite : Direction → Direction
  | ascending => descending
  | descending => ascending

namespace Listing

variable {α : Type} {attr : α → Text → Value} {fields : Option (List Text)} {f : Filter}
  {field : Text} {direction : Direction} {xs ys : List α} {a b : Value} {keys : List Value}

/-- Whether a sort key may stand before another one: a lower one when the sort ascends, a higher
one when it descends. -/
def Stands (direction : Direction) (a b : Value) : Prop :=
  match direction with
  | .ascending => a.rank ≤ b.rank
  | .descending => b.rank ≤ a.rank

/-- Whether a value may stand before another can be decided. -/
instance (direction : Direction) : DecidableRel (Stands direction) := fun a b =>
  match direction with
  | .ascending => WithTop.decidableLE a.rank b.rank
  | .descending => WithTop.decidableLE b.rank a.rank

/-- Whether an item satisfies every condition of a filter that is evaluated. -/
def Passes (attr : α → Text → Value) (fields : Option (List Text)) (f : Filter) (x : α) : Prop :=
  ∀ c ∈ f.conditions, (∀ names ∈ fields, c.field ∈ names) → satisfies attr c x = true

/-- Whether an element passes a filter can be decided. -/
instance : DecidablePred (Passes attr fields f) := fun _ => decidable_of_iff _ all_evaluated

/-- The items that satisfy every condition that is evaluated. -/
def passing (attr : α → Text → Value) (fields : Option (List Text)) (f : Filter) (xs : List α) :
    List α :=
  xs.filter fun x => Passes attr fields f x

/-- What is selected by the evaluated conditions is what passes. -/
lemma select_passing :
    select attr (evaluated fields f.conditions) xs = passing attr fields f xs := by
  refine List.filter_congr fun x _ => ?_
  rw [Bool.eq_iff_iff, decide_eq_true_iff, Passes, all_evaluated]

/-- The order of sort keys is transitive. -/
lemma Stands.trans {c : Value} (h : Stands direction a b) (h' : Stands direction b c) :
    Stands direction a c := by
  cases direction with
  | ascending => exact le_trans (α := WithTop (ℤ ×ₗ List ℕ)) h h'
  | descending => exact le_trans (α := WithTop (ℤ ×ₗ List ℕ)) h' h

/-- The order of sort keys is total. -/
lemma Stands.total (direction : Direction) (a b : Value) :
    Stands direction a b ∨ Stands direction b a := by
  cases direction with
  | ascending => exact le_total a.rank b.rank
  | descending => exact le_total b.rank a.rank

/-- Keys of one list are equal exactly when each may stand before the other. -/
lemma same_iff (kin : Value.Kin a b) (direction : Direction) :
    a.same b = true ↔ Stands direction b a ∧ Stands direction a b := by
  rw [kin.compare.1, decide_eq_true_iff, le_antisymm_iff]
  cases direction with
  | ascending => exact and_comm
  | descending => exact Iff.rfl

/-- Keys of one kind may precede one another just as they stand in order. -/
lemma mayPrecede_iff (kin : Value.Kin a b) (kin' : Value.Kin b a) :
    mayPrecede direction a b = true ↔ Stands direction a b := by
  cases direction with
  | ascending => simp [mayPrecede, kin'.compare.2, Stands]
  | descending => simp [mayPrecede, kin.compare.2, Stands]

/-- Comparable keys have an order. -/
lemma haveOrder_of_comparable (h : Value.Comparable keys) : haveOrder keys = true := by
  have given : ∀ {p q : Value → Bool}, (∀ k, p k = true → q k = true) →
      (∀ k ∈ keys, k = .null ∨ p k = true) → (keys.filter fun k => !k.isNull).all q = true := by
    intro p q implies kinds
    refine List.all_eq_true.mpr fun k mem => ?_
    obtain ⟨mem, some⟩ := List.mem_filter.mp mem
    rcases kinds k mem with rfl | kind
    · cases some
    · exact implies k kind
  unfold haveOrder
  rw [Bool.or_eq_true]
  rcases h with whole | text
  · refine .inl (given (fun k whole => ?_) whole)
    obtain ⟨n, whole⟩ := Option.isSome_iff_exists.mp whole
    rw [Value.isNumber, Value.number?_of_whole whole]
  · exact .inr (given (fun _ text => text) text)

/-- Items whose keys can be compared are sorted stably. -/
lemma sorted_sortsStably (comparable : Value.Comparable (xs.map (attr · field)))
    (direction : Direction) : ∃ ys, sorted attr field direction xs = .ok ys ∧
      SortsStably (fun x y => Stands direction (attr x field) (attr y field)) xs ys := by
  have agree : ∀ x ∈ xs, ∀ y ∈ xs, mayPrecede direction (attr x field) (attr y field) =
      decide (Stands direction (attr x field) (attr y field)) := by
    intro x mem y mem'
    have kin := comparable.kin (List.mem_map_of_mem mem) (List.mem_map_of_mem mem')
    have kin' := comparable.kin (List.mem_map_of_mem mem') (List.mem_map_of_mem mem)
    rw [Bool.eq_iff_iff, decide_eq_true_iff, mayPrecede_iff kin kin']
  have eq : xs.mergeSort (fun x y => mayPrecede direction (attr x field) (attr y field)) =
      xs.mergeSort fun x y => Stands direction (attr x field) (attr y field) := by
    simpa using List.map_mergeSort (f := id) (l := xs) agree
  have stable := SortsStably.mergeSort
    (R := fun x y => Stands direction (attr x field) (attr y field))
    (fun _ _ _ => Stands.trans) (fun _ _ => Stands.total _ _ _) xs
  refine ⟨_, ?_, stable⟩
  rw [sorted, if_pos (haveOrder_of_comparable comparable), eq]

/-- A filter that sorts and does not page gives what it selects, sorted. -/
lemma ofFilter_sorted (by_ : f.sort = some (field, direction)) (unpaged : f.unpaged.isBlank = false)
    (sorts : sorted attr field direction (passing attr fields f xs) = .ok ys) :
    ofFilter attr fields f xs = .ok ⟨ys, ys.length⟩ := by
  rw [ofFilter_eq, by_, select_passing, unpaged]
  show sorted attr field direction (passing attr fields f xs) >>= _ = _
  rw [sorts]
  rfl

/-- A filter with a sort shows the items that satisfy its conditions, and no others, sorted by their
keys: in ascending order with the missing ones last, or in descending order with the missing ones
first. Items with equal keys are in the order in which they came, so that sorting the other way
what is turned round gives the same items turned round. -/
theorem listing_sorted_stably (by_ : f.sort = some (field, direction))
    (unpaged : f.unpaged.isBlank = false)
    (comparable : Value.Comparable ((passing attr fields f xs).map (attr · field))) :
    ∃ ys, ofFilter attr fields f xs = .ok ⟨ys, ys.length⟩ ∧ ys ~ passing attr fields f xs ∧
      ys.Pairwise (fun x y => Stands direction (attr x field) (attr y field)) ∧
      (∀ x ∈ ys, (ys.filter fun y => (attr y field).same (attr x field)) =
        (passing attr fields f xs).filter fun y => (attr y field).same (attr x field)) ∧
      ofFilter attr fields { f with sort := some (field, direction.opposite) } xs.reverse =
        .ok ⟨ys.reverse, ys.length⟩ := by
  obtain ⟨ys, sorts, stable⟩ := sorted_sortsStably comparable direction
  refine ⟨ys, ofFilter_sorted by_ unpaged sorts, stable.perm, stable.ordered, fun x mem => ?_, ?_⟩
  · -- an equal key is one that may stand on either side
    have tied : ∀ y ∈ passing attr fields f xs, (attr y field).same (attr x field) =
        decide (Stands direction (attr x field) (attr y field) ∧
          Stands direction (attr y field) (attr x field)) := by
      intro y mem'
      have kin := comparable.kin (List.mem_map_of_mem mem')
        (List.mem_map_of_mem (stable.perm.mem_iff.mp mem))
      rw [Bool.eq_iff_iff, decide_eq_true_iff, same_iff kin direction]
    rw [List.filter_congr fun y mem' => tied y (stable.perm.mem_iff.mp mem'), stable.ties x,
      List.filter_congr tied]
  · let opposite : Filter := { f with sort := some (field, direction.opposite) }
    have turned : passing attr fields opposite xs.reverse = (passing attr fields f xs).reverse :=
      List.filter_reverse
    have comparable' : Value.Comparable
        ((passing attr fields opposite xs.reverse).map (attr · field)) := by
      simpa [turned, Value.Comparable] using comparable
    obtain ⟨zs, sorts', stable'⟩ := sorted_sortsStably comparable' direction.opposite
    have shown := ofFilter_sorted (f := opposite) rfl unpaged sorts'
    rw [turned] at stable'
    have same : zs = ys.reverse := by
      cases direction <;> exact stable'.unique (fun x => le_refl (attr x field).rank) stable.reverse
    rw [same, List.length_reverse] at shown
    exact shown

namespace Sample

/-- Names with scores, two of which are missing. -/
def scores : List (Text × Value) :=
  [("a", .int 2), ("b", .bool true), ("c", .null), ("d", .int 1), ("e", .int 2), ("f", .null)]

/-- The attributes of a named score. -/
def scoreAttr (x : Text × Value) (field : Text) : Value :=
  (Keyed.get? field [("name", .str x.1), ("score", x.2)]).getD .null

/-- All of them, the highest score first. -/
def byScore : Filter := { Filter.everything with sort := some ("score", .descending) }

end Sample

/-- A truth value is tied with the number that it counts as, and stays before it. -/
theorem tied_scores_in_order : ∃ ys,
    ofFilter Sample.scoreAttr none Sample.byScore Sample.scores = .ok ⟨ys, 6⟩ ∧
      (ys.filter fun y => (Sample.scoreAttr y "score").same (.int 1)) =
        [(("b" : Text), Value.bool true), ("d", .int 1)] ∧
      ofFilter Sample.scoreAttr none { Sample.byScore with sort := some ("score", .ascending) }
        Sample.scores.reverse = .ok ⟨ys.reverse, 6⟩ := by
  have comparable : Value.Comparable ((passing Sample.scoreAttr none Sample.byScore
      Sample.scores).map (Sample.scoreAttr · "score")) := by
    refine .inl fun k mem => ?_
    have keys : k ∈ [Value.int 2, .bool true, .null, .int 1, .int 2, .null] := mem
    simp only [List.mem_cons, List.not_mem_nil, or_false] at keys
    rcases keys with rfl | rfl | rfl | rfl | rfl | rfl <;>
      first | exact .inl rfl | exact .inr rfl
  obtain ⟨ys, shown, perm, -, ties, turned⟩ := listing_sorted_stably rfl rfl comparable
  have six : ys.length = 6 := perm.length_eq
  rw [six] at shown turned
  have mem : (("d" : Text), Value.int 1) ∈ ys :=
    perm.mem_iff.mpr (List.mem_filter.mpr ⟨by simp [Sample.scores], rfl⟩)
  exact ⟨ys, shown, ties _ mem, turned⟩

end Listing

end ProxyFleet
