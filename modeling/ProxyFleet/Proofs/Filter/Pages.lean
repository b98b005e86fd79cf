import Mathlib.Algebra.Order.Floor.Div
import ProxyFleet.Proofs.Filter.Listing
import ProxyFleet.Proxy

/-!
# Pages

A filter shows its items page by page. Whatever its conditions and its sort, the pages are cut out
of one list, the one that is shown without pages: put one behind the other they are that list, and
each of them counts its length.
-/

namespace ProxyFleet

namespace Filter

/-- The filter for all items on one page. -/
def whole (f : Filter) : Filter := { f with unpaged := .bool true }

/-- The filter for one of the pages. -/
def onPage (f : Filter) (page : Extent) : Filter := { f with page, unpaged := .bool false }

end Filter

namespace Listing

variable {α : Type} {attr : α → Text → Value} {fields : Option (List Text)} {f : Filter}
  {page : Extent} {size n : Nat} {all xs : List α} {conditions : List Condition}

/-! ## The conditions that are evaluated -/

/-- What conditions select depends on which there are, and neither on their order nor on how often
each of them is there. -/
lemma select_congr {others : List Condition} (same : ∀ c, c ∈ others ↔ c ∈ conditions) :
    select attr (evaluated fields others) xs = select attr (evaluated fields conditions) xs := by
  refine List.filter_congr fun x _ => ?_
  rw [Bool.eq_iff_iff, List.all_eq_true, List.all_eq_true]
  apply forall_congr'
  intro c
  rw [mem_evaluated, mem_evaluated, same c]

/-- As many items are selected as satisfy every condition that is evaluated. -/
lemma length_select : (select attr (evaluated fields conditions) xs).length =
    xs.countP fun x =>
      ∀ c ∈ conditions, (∀ names ∈ fields, c.field ∈ names) → satisfies attr c x = true := by
  rw [select_evaluated, List.countP_eq_length_filter]

/-! ## Pages of a list -/

/-- The page of a list with the given number, counted from 1. -/
def pageOf (size n : Nat) (all : List α) : List α := (all.drop ((n - 1) * size)).take size

/-- A page has as many elements as its size, or as there are left. -/
lemma length_pageOf (size n : Nat) (all : List α) :
    (pageOf size n all).length = min size (all.length - (n - 1) * size) := by
  rw [pageOf, List.length_take, List.length_drop]

/-- A page is empty just where the pages before it hold everything. -/
lemma pageOf_eq_nil (pos : 1 ≤ size) : pageOf size n all = [] ↔ all.length ≤ (n - 1) * size := by
  rw [← List.length_eq_zero_iff, length_pageOf]
  omega

/-- The first pages hold the items up to the end of the last one of them. -/
lemma flatMap_pageOf (size n : Nat) (all : List α) :
    ((List.range n).flatMap fun k => pageOf size (k + 1) all) = all.take (n * size) := by
  induction n with
  | zero => simp
  | succ n ih =>
    rw [List.range_succ, List.flatMap_append, ih, Nat.succ_mul, List.take_add]
    simp [pageOf]

/-- Pages that make up a list: all of them full but the last one that holds anything, each item on
one of them, and nothing behind. -/
structure Pages (size : Nat) (all : List α) (pages : Nat → List α) : Prop where
  length_le : ∀ n, 1 ≤ n → (pages n).length ≤ size
  full : ∀ m n, 1 ≤ m → m < n → pages n ≠ [] → (pages m).length = size
  joined : ((List.range (all.length ⌈/⌉ size)).flatMap fun n => pages (n + 1)) = all
  later : ∀ n, all.length ⌈/⌉ size < n → pages n = []

/-- Pages of a positive size are the pages of the list. -/
lemma pages_pageOf (pos : 1 ≤ size) (all : List α) :
    Pages size all fun n => pageOf size n all where
  length_le n _ := by
    rw [length_pageOf]
    exact Nat.min_le_left _ _
  full m n first before some := by
    have room : (n - 1) * size < all.length := by
      rwa [Ne, pageOf_eq_nil pos, Nat.not_le] at some
    have earlier : (m - 1 + 1) * size ≤ (n - 1) * size := Nat.mul_le_mul_right _ (by omega)
    rw [Nat.add_one_mul] at earlier
    rw [length_pageOf]
    omega
  joined := by
    have covers := (ceilDiv_le_iff_le_mul pos).mp (Nat.le_refl (all.length ⌈/⌉ size))
    rw [flatMap_pageOf, Nat.mul_comm, List.take_of_length_le covers]
  later n behind := by
    rw [pageOf_eq_nil pos, Nat.mul_comm]
    exact (ceilDiv_le_iff_le_mul pos).mp (by omega)

/-! ## Pages of a filter -/

/-- A filter without its page gives everything that it selects, in its order. -/
lemma ofFilter_whole (attr : α → Text → Value) (fields : Option (List Text)) (f : Filter)
    (xs : List α) :
    ofFilter attr fields f.whole xs =
      (inOrder attr f.sort (select attr (evaluated fields f.conditions) xs)).map
        fun all => ⟨all, all.length⟩ := by
  rw [ofFilter_eq]
  show inOrder attr f.sort (select attr (evaluated fields f.conditions) xs) >>= _ = _
  cases inOrder attr f.sort (select attr (evaluated fields f.conditions) xs) <;> rfl

/-- A page is cut out of what is shown without pages; it fails when that fails. -/
lemma ofFilter_onPage (numbered : page.count? = some n) (sized : f.limit.count? = some size)
    (xs : List α) :
    ofFilter attr fields (f.onPage page) xs =
      (ofFilter attr fields f.whole xs).map fun l => ⟨pageOf size n l.items, l.total⟩ := by
  have part : ∀ all : List α, cut page f.limit all = .ok (pageOf size n all) := by
    intro all
    rw [cut, numbered, sized]
    rfl
  rw [ofFilter_whole, ofFilter_eq]
  show inOrder attr f.sort (select attr (evaluated fields f.conditions) xs) >>= (fun all =>
    cut page f.limit all >>= fun shown => .ok (⟨shown, all.length⟩ : Listing α)) = _
  cases inOrder attr f.sort (select attr (evaluated fields f.conditions) xs) with
  | error e => rfl
  | ok all =>
    rw [ok_bind, part]
    rfl

/-- The pages of a filter make up what it shows without pages, whichever conditions it has, in
whatever order and however often. On every page, and without pages, the total is the number of
items that satisfy the conditions that are evaluated. -/
theorem pages_partition (sized : f.limit.count? = some size) (pos : 1 ≤ size)
    (sorts : inOrder attr f.sort (select attr (evaluated fields f.conditions) xs) = .ok all) :
    all.length = xs.countP (fun x =>
        ∀ c ∈ f.conditions, (∀ names ∈ fields, c.field ∈ names) → satisfies attr c x = true) ∧
      ofFilter attr fields f.whole xs = .ok ⟨all, all.length⟩ ∧
      (∃ pages, Pages size all pages ∧ ∀ page n, page.count? = some n → 1 ≤ n →
        ofFilter attr fields (f.onPage page) xs = .ok ⟨pages n, all.length⟩) ∧
      ∀ conditions, (∀ c, c ∈ conditions ↔ c ∈ f.conditions) → ∀ page unpaged,
        ofFilter attr fields { f with page, unpaged, conditions } xs =
          ofFilter attr fields { f with page, unpaged } xs := by
  have shown : ofFilter attr fields f.whole xs = .ok ⟨all, all.length⟩ := by
    rw [ofFilter_whole, sorts]
    rfl
  refine ⟨?_, shown, ⟨_, pages_pageOf pos all, ?_⟩, ?_⟩
  · rw [(inOrder_perm sorts).length_eq, length_select]
  · intro page n numbered _
    rw [ofFilter_onPage numbered sized, shown]
    rfl
  · intro conditions same page unpaged
    rw [ofFilter_eq, ofFilter_eq]
    dsimp only
    rw [select_congr same]

namespace Sample

/-- A proxy that listens on all addresses of a version of the protocol. -/
def proxy (id addr : Text) (port : Int) : Listener := ⟨id, addr, port, [], none⟩

/-- Proxies on two addresses, each with a port of its own. -/
def proxies : List Listener :=
  [proxy "a" "::" 3129, proxy "b" "0.0.0.0" 3128, proxy "c" "::" 3131, proxy "d" "::" 3130]

/-- Two proxies on a page, of those on one address the one with the highest port first. -/
def highest : Filter :=
  { Filter.default.requireJson "listen_addr" (.str "::") with
    limit := .whole 2
    sort := some ("listen_port", .descending) }

/-- The proxies on the one address, the highest port first. -/
def shown : List Listener := [proxy "c" "::" 3131, proxy "d" "::" 3130, proxy "a" "::" 3129]

/-- These are what the filter selects, in its order. -/
lemma inOrder_shown : inOrder Listener.attr highest.sort
    (select Listener.attr (evaluated none highest.conditions) proxies) = .ok shown := by
  have port : ∀ id addr n, (proxy id addr n).attr "listen_port" = .int n := fun _ _ _ => rfl
  have before : ∀ m ∈ [3129, 3130, 3131], ∀ n ∈ [3129, 3130, 3131],
      mayPrecede .descending (.int m) (.int n) = decide (n ≤ m) := by decide +kernel
  show sorted _ "listen_port" .descending
    [proxy "a" "::" 3129, proxy "c" "::" 3131, proxy "d" "::" 3130] = _
  rw [sorted, if_pos (by rfl)]
  simp [shown, List.mergeSort, List.MergeSort.Internal.splitInTwo, port, before]

end Sample

/-- The three proxies on the address fill one page and begin another one. -/
theorem proxies_paged : ∃ pages, Pages 2 Sample.shown pages ∧
    ∀ page n, page.count? = some n → 1 ≤ n →
      ofFilter Listener.attr none (Sample.highest.onPage page) Sample.proxies =
        .ok ⟨pages n, 3⟩ :=
  (pages_partition rfl (by decide) Sample.inOrder_shown).2.2.1

end Listing

end ProxyFleet
