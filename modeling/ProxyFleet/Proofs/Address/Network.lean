import ProxyFleet.Address.Network
import ProxyFleet.Proofs.Address.Reading
import ProxyFleet.Proofs.Least

/-!
# Hosts of a network

The hosts of a network are its addresses, apart from the network address and the broadcast address
where there is room for them. The search for a free host gives the least one that is not reserved,
and none exactly when all of them are reserved.
-/

namespace ProxyFleet.Network
open Address

variable {n : Network} {a b : Address} {reserved : List Address}

/-- The hosts of a network without a zone. With a prefix of at most 30 bits an IPv4 network keeps
its first and its last address, and with one of at most 126 bits an IPv6 network keeps its
first. -/
inductive IsHost : Network → Address → Prop where
  | v4 {first length v : Nat} : first ≤ v → v < first + 2 ^ (32 - length) →
    (length ≤ 30 → v ≠ first ∧ v + 1 ≠ first + 2 ^ (32 - length)) →
    IsHost ⟨.v4 first, length⟩ (.v4 v)
  | v6 {first length v : Nat} : first ≤ v → v < first + 2 ^ (128 - length) →
    (length ≤ 126 → v ≠ first) → IsHost ⟨.v6 first none, length⟩ (.v6 v none)

/-- Whether a network has no zone and all its addresses fit their family. -/
inductive Whole : Network → Prop where
  | v4 {first length : Nat} : first + 2 ^ (32 - length) ≤ 2 ^ 32 → Whole ⟨.v4 first, length⟩
  | v6 {first length : Nat} : first + 2 ^ (128 - length) ≤ 2 ^ 128 → Whole ⟨.v6 first none, length⟩

/-- A host of a whole network has an address without a zone. -/
lemma IsHost.plain (h : n.IsHost a) (whole : n.Whole) : a.Plain := by
  cases h with
  | v4 _ below =>
    cases whole with
    | v4 fits => exact .v4 (by omega)
  | v6 _ below =>
    cases whole with
    | v6 fits => exact .v6 (by omega)

/-! ## Host numbers -/

/-- Whether a number is one that the search for a host looks at. -/
def Searched (n : Network) (v : Nat) : Prop :=
  n.hostRange.1 ≤ v ∧ v < n.hostRange.1 + n.hostRange.2

/-- A power of two is at most two for the first two exponents only. -/
lemma two_pow_le_two_iff {k : Nat} : 2 ^ k ≤ 2 ↔ k ≤ 1 :=
  Nat.pow_le_pow_iff_right (a := 2) (m := 1) Nat.one_lt_two

/-- In a network of the fourth version all addresses are searched but the first and the last, and
these two, too, if there are no others. -/
lemma searched_v4 {first length v : Nat} : Searched ⟨.v4 first, length⟩ v ↔
    first ≤ v ∧ v < first + 2 ^ (32 - length) ∧
      (length ≤ 30 → v ≠ first ∧ v + 1 ≠ first + 2 ^ (32 - length)) := by
  have small : 2 ^ (32 - length) ≤ 2 ↔ ¬ length ≤ 30 := two_pow_le_two_iff.trans (by omega)
  unfold Searched hostRange
  simp only [width, value, Nat.pow_eq, small]
  by_cases room : length ≤ 30
  · simp only [room, not_true_eq_false, if_false, true_imp_iff]
    omega
  · simp only [room, not_false_eq_true, if_true, false_imp_iff, and_true]

/-- In a network of the sixth version all addresses are searched but the first one, and this one,
too, if there are at most two. -/
lemma searched_v6 {first length v : Nat} : Searched ⟨.v6 first none, length⟩ v ↔
    first ≤ v ∧ v < first + 2 ^ (128 - length) ∧ (length ≤ 126 → v ≠ first) := by
  have small : 2 ^ (128 - length) ≤ 2 ↔ ¬ length ≤ 126 := two_pow_le_two_iff.trans (by omega)
  have positive : 0 < 2 ^ (128 - length) := Nat.two_pow_pos _
  unfold Searched hostRange
  simp only [width, value, Nat.pow_eq, small]
  by_cases room : length ≤ 126
  · simp only [room, not_true_eq_false, if_false, true_imp_iff]
    omega
  · simp only [room, not_false_eq_true, if_true, false_imp_iff, and_true]

/-- The hosts are the addresses of the numbers that are searched. -/
lemma isHost_iff (whole : n.Whole) : n.IsHost a ↔ ∃ v, n.Searched v ∧ n.hostAddress v = a := by
  cases whole with
  | @v4 first length =>
    constructor
    · intro h
      cases h with
      | @v4 _ _ v behind below apart => exact ⟨v, searched_v4.mpr ⟨behind, below, apart⟩, rfl⟩
    · rintro ⟨v, searched, rfl⟩
      obtain ⟨behind, below, apart⟩ := searched_v4.mp searched
      exact .v4 behind below apart
  | @v6 first length =>
    have unscoped : ∀ v, hostAddress ⟨.v6 first none, length⟩ v = .v6 v none := fun v => ite_self _
    constructor
    · intro h
      cases h with
      | @v6 _ _ v behind below apart =>
        exact ⟨v, searched_v6.mpr ⟨behind, below, apart⟩, unscoped v⟩
    · rintro ⟨v, searched, rfl⟩
      obtain ⟨behind, below, apart⟩ := searched_v6.mp searched
      exact unscoped v ▸ .v6 behind below apart

/-- The address of a number has this number. -/
lemma value_hostAddress (n : Network) (v : Nat) : (n.hostAddress v).value = v := by
  unfold hostAddress
  split
  · rfl
  · split <;> rfl

/-- Different numbers have different addresses. -/
lemma hostAddress_injective (n : Network) : Function.Injective n.hostAddress := fun v w same => by
  rw [← n.value_hostAddress v, same, n.value_hostAddress]

/-! ## The search -/

/-- The numbers that are searched are those of the range of hosts. -/
lemma searched_iff {v : Nat} : n.Searched v ↔ ∃ i < n.hostRange.2, n.hostRange.1 + i = v := by
  constructor
  · rintro ⟨behind, below⟩
    exact ⟨v - n.hostRange.1, by omega, by omega⟩
  · rintro ⟨i, bound, rfl⟩
    exact ⟨by omega, by omega⟩

/-- The free host is the first number of the range, searched as far as there can be reserved ones,
whose address is not reserved. -/
lemma freeHost?_eq (n : Network) (reserved : List Address) : n.freeHost? reserved =
    (firstFree? (fun v => reserved.contains (n.hostAddress v)) n.hostRange.1
      (min n.hostRange.2 (reserved.length + 1))).map n.hostAddress := rfl

/-- There is no free host exactly when all hosts are reserved, although the search looks at no more
of them than there are reserved addresses, and one. -/
lemma freeHost?_eq_none (whole : n.Whole) :
    n.freeHost? reserved = none ↔ ∀ a, n.IsHost a → a ∈ reserved := by
  have looks : n.freeHost? reserved = none ↔ ∀ i < min n.hostRange.2 (reserved.length + 1),
      n.hostAddress (n.hostRange.1 + i) ∈ reserved := by
    simp only [freeHost?_eq, Option.map_eq_none_iff, firstFree?_eq_none, List.contains_iff_mem]
  rw [looks]
  constructor
  · intro taken a host
    obtain ⟨v, searched, rfl⟩ := (isHost_iff whole).mp host
    obtain ⟨i, bound, rfl⟩ := searched_iff.mp searched
    -- one more host than there are reserved addresses would be free
    obtain ⟨j, near, free⟩ := exists_unused (f := fun j => n.hostAddress (n.hostRange.1 + j))
      (fun _ _ same => Nat.add_left_cancel (n.hostAddress_injective same)) reserved
    refine taken i (lt_min bound ?_)
    by_contra far
    exact free (taken j (lt_min (by omega) near))
  · intro all i bound
    refine all _ ((isHost_iff whole).mpr ⟨_, searched_iff.mpr ⟨i, ?_, rfl⟩, rfl⟩)
    exact lt_of_lt_of_le bound (min_le_left _ _)

/-- The free host that is found has the least number. -/
lemma freeHost?_eq_some (whole : n.Whole) (h : n.freeHost? reserved = some a) :
    n.IsHost a ∧ a ∉ reserved ∧ ∀ b, n.IsHost b → b ∉ reserved → a.value ≤ b.value := by
  rw [freeHost?_eq] at h
  obtain ⟨v, found, rfl⟩ := Option.map_eq_some_iff.mp h
  obtain ⟨i, bound, rfl, free, earlier⟩ := firstFree?_eq_some.mp found
  have inside := searched_iff.mpr ⟨i, lt_of_lt_of_le bound (min_le_left _ _), rfl⟩
  refine ⟨(isHost_iff whole).mpr ⟨_, inside, rfl⟩, by simpa using free, fun b host unreserved => ?_⟩
  obtain ⟨w, searched, rfl⟩ := (isHost_iff whole).mp host
  obtain ⟨j, -, rfl⟩ := searched_iff.mp searched
  rw [value_hostAddress, value_hostAddress]
  by_contra less
  have taken := earlier j (by omega)
  exact unreserved (by simpa using taken)

/-! ## Networks that are read -/

/-- A block of addresses of a size that divides their number ends with them. -/
lemma block_le {v size total : Nat} (divides : size ∣ total) (inside : v < total) :
    v - v % size + size ≤ total := by
  obtain ⟨blocks, rfl⟩ := divides
  have start : v - v % size = size * (v / size) := by
    have := Nat.div_add_mod v size
    omega
  rw [start, ← Nat.mul_succ]
  exact Nat.mul_le_mul_left size (Nat.div_lt_of_lt_mul inside)

/-- Without a zone, the network around an address that fits is whole. -/
lemma around_whole {length : Nat} (fits : a.value < 2 ^ width a)
    (unscoped : ∀ v zone, (around a length).base ≠ .v6 v (some zone)) :
    (around a length).Whole := by
  cases a with
  | v4 v => exact .v4 (block_le (Nat.pow_dvd_pow 2 (Nat.sub_le _ _)) fits)
  | v6 v zone =>
    have block : v - v % 2 ^ (128 - length) + 2 ^ (128 - length) ≤ 2 ^ 128 :=
      block_le (Nat.pow_dvd_pow 2 (Nat.sub_le _ _)) fits
    by_cases aligned : v % 2 ^ (128 - length) = 0
    · have kept : around (.v6 v zone) length = ⟨.v6 v zone, length⟩ := if_pos aligned
      rw [kept] at unscoped ⊢
      rw [aligned] at block
      rcases zone with _ | zone
      · exact .v6 block
      · exact absurd rfl (unscoped v zone)
    · have cleared : around (.v6 v zone) length = ⟨.v6 (v - v % 2 ^ (128 - length)) none, length⟩ :=
        if_neg aligned
      rw [cleared]
      exact .v6 block

/-- Whether a network lies around an address whose number fits its family. -/
def Around (n : Network) : Prop := ∃ a length, around a length = n ∧ a.value < 2 ^ width a

/-- An address that may have a zone fits into its version when it is read. -/
lemma readZoned?_fits {s : Text} (h : readZoned? s = some a) : a.value < 2 ^ width a := by
  unfold readZoned? at h
  dsimp only at h
  split at h
  · obtain ⟨v, read, rfl⟩ := Option.map_eq_some_iff.mp h
    exact Address.readV6?_lt read
  · split at h
    · cases h
    · obtain ⟨v, read, rfl⟩ := Option.map_eq_some_iff.mp h
      exact Address.readV6?_lt read

/-- An address that is given as a number fits into its version. -/
lemma ofInt?_fits {i : Int} (h : ofInt? i = some a) : a.value < 2 ^ width a := by
  unfold ofInt? at h
  split_ifs at h with negative small large
  · cases h
    exact (Int.toNat_lt (by omega)).mpr small
  · cases h
    exact (Int.toNat_lt (by omega)).mpr large

/-- A network of the fourth version is read as one around an address. -/
lemma readV4?_around {address : Text} {suffix : Option Text}
    (h : readV4? address suffix = some n) : n.Around := by
  obtain ⟨v, read, h⟩ := Option.bind_eq_some_iff.mp h
  split at h
  · cases h
    exact ⟨_, _, rfl, Address.readV4?_lt read⟩
  · obtain ⟨length, -, h⟩ := Option.bind_eq_some_iff.mp h
    cases h
    exact ⟨_, _, rfl, Address.readV4?_lt read⟩

/-- A network of the sixth version is read as one around an address. -/
lemma readV6?_around {address : Text} {suffix : Option Text}
    (h : readV6? address suffix = some n) : n.Around := by
  obtain ⟨a, read, h⟩ := Option.bind_eq_some_iff.mp h
  split at h
  · cases h
    exact ⟨_, _, rfl, readZoned?_fits read⟩
  · obtain ⟨length, -, h⟩ := Option.bind_eq_some_iff.mp h
    cases h
    exact ⟨_, _, rfl, readZoned?_fits read⟩

/-- A network is read as one around an address. -/
lemma read?_around {s : Text} (h : read? s = some n) : n.Around := by
  have either : ∀ {address suffix},
      (readV4? address suffix).or (readV6? address suffix) = some n → n.Around := by
    intro address suffix h
    rcases Option.or_eq_some_iff.mp h with h | ⟨-, h⟩
    · exact readV4?_around h
    · exact readV6?_around h
  unfold read? at h
  split at h
  · exact either h
  · exact either h
  · cases h

/-- Every network that is read lies around an address. -/
lemma ofJson?_around {j : Json} (h : ofJson? j = some n) : n.Around := by
  have number : ∀ {i}, (ofInt? i).map (fun a => around a (width a)) = some n → n.Around := by
    intro i h
    obtain ⟨a, read, rfl⟩ := Option.map_eq_some_iff.mp h
    exact ⟨a, _, rfl, ofInt?_fits read⟩
  unfold ofJson? at h
  split at h
  · exact number h
  · exact number h
  · exact read?_around h

/-- A network that is read and has no zone has all its addresses in its version. -/
lemma whole_of_ofJson? {j : Json} (h : ofJson? j = some n)
    (unscoped : ∀ v zone, n.base ≠ .v6 v (some zone)) : n.Whole := by
  obtain ⟨a, length, rfl, fits⟩ := ofJson?_around h
  exact around_whole fits unscoped

end ProxyFleet.Network
