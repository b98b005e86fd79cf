import Mathlib.Algebra.Group.Nat.Defs
import Mathlib.Data.List.Induction
import ProxyFleet.Address
import ProxyFleet.Proofs.Outcome
import ProxyFleet.Proofs.Text.Numeral
import ProxyFleet.Proofs.Text.Splitting

/-!
# Addresses are read back

An address that fits its family is read from its text: an IPv4 address from its four parts, an IPv6
address without a zone from its groups, whether or not a run of zeros among them is abbreviated.
-/

namespace ProxyFleet.Address
open Text

variable {c : Symbol} {s : Text} {g n : Nat} {gs hs ls : List Nat}

/-! ## Dotted notation -/

/-- The numeral of an octet is read as the octet. -/
lemma readOctet?_numeral (h : n < 256) : readOctet? (numeral n) = some n := by
  have all : ∀ k : Fin 256, readOctet? (numeral (k : Nat)) = some (k : Nat) := by decide +kernel
  exact all ⟨n, h⟩

/-- The parts of an IPv4 address. -/
def octets (n : Nat) : List Nat := [n / 16777216, n / 65536 % 256, n / 256 % 256, n % 256]

/-- Between the points of an address stand the numerals of its octets. -/
lemma split_dotted (n : Nat) :
    splitFrom '.' [] (dotted n) = (octets n).map fun k : Nat => numeral k := by
  have apart : ∀ piece ∈ (octets n).map fun k : Nat => numeral k, .char '.' ∉ piece := by
    intro piece mem
    obtain ⟨k, -, rfl⟩ := List.mem_map.mp mem
    exact not_mem_numeral (by decide) (by decide)
  exact (split_eq_splitOn '.' (dotted n)).trans
    (List.splitOn_intercalate _ apart (List.cons_ne_nil _ _))

/-- An address of the fourth version is read from its text. -/
lemma readV4?_dotted (h : n < 2 ^ 32) : readV4? (dotted n) = some n := by
  have parts : ∀ k ∈ octets n, readOctet? (numeral k) = some k := by
    intro k mem
    refine readOctet?_numeral ?_
    simp only [octets, List.mem_cons, List.not_mem_nil, or_false] at mem
    omega
  simp only [octets, List.forall_mem_cons] at parts
  obtain ⟨first, second, third, fourth, -⟩ := parts
  have whole : ((n / 16777216 * 256 + n / 65536 % 256) * 256 + n / 256 % 256) * 256 + n % 256 =
      n := by omega
  unfold readV4?
  rw [split_dotted]
  simp only [octets, List.map_cons, List.map_nil]
  rw [first, second, third, fourth]
  exact congrArg some whole

/-- No slash is in an address of the fourth version. -/
lemma slash_not_mem_dotted (n : Nat) : .char '/' ∉ dotted n := by
  intro mem
  rcases mem_join mem with dot | ⟨piece, written, mem⟩
  · exact absurd dot (by decide)
  · obtain ⟨k, -, rfl⟩ := List.mem_map.mp written
    exact not_mem_numeral (by decide) (by decide) mem

/-! ## Groups -/

/-- The digit of a hexadecimal number is read as the number. -/
lemma hexValue?_digitChar (h : n < 16) : hexValue? (.char n.digitChar) = some n := by
  have all : ∀ d : Fin 16, hexValue? (.char (d : Nat).digitChar) = some (d : Nat) := by decide
  exact all ⟨n, h⟩

/-- The hexadecimal digits of a number, and the number from them. -/
lemma exists_hexDigits (n : Nat) : ∃ ds : List Nat, Nat.toDigits 16 n = ds.map Nat.digitChar ∧
    (∀ d ∈ ds, d < 16) ∧ ds.foldl (fun n d => 16 * n + d) 0 = n := by
  induction n using Nat.strongRecOn with
  | ind n ih =>
    by_cases small : n < 16
    · exact ⟨[n], Nat.toDigits_of_lt_base small, by simpa using small, by simp⟩
    · obtain ⟨ds, digits, bounds, value⟩ := ih (n / 16) (by omega)
      have last : n % 16 < 16 := Nat.mod_lt _ (by decide)
      refine ⟨ds ++ [n % 16], ?_, ?_, ?_⟩
      · have split := Nat.toDigits_append_toDigits (b := 16) (n := n / 16) (d := n % 16)
          (by decide) (by omega) last
        rw [Nat.div_add_mod, Nat.toDigits_of_lt_base last, digits] at split
        rw [← split, List.map_append]
        rfl
      · intro d mem
        rcases List.mem_append.mp mem with mem | mem
        · exact bounds d mem
        · exact List.mem_singleton.mp mem ▸ last
      · rw [List.foldl_append, value]
        exact Nat.div_add_mod n 16

/-- A group is written in hexadecimal digits. -/
lemma hexValue?_isSome_of_mem (h : c ∈ groupText g) : (hexValue? c).isSome := by
  obtain ⟨ds, digits, bounds, -⟩ := exists_hexDigits g
  obtain ⟨x, mem, rfl⟩ := List.mem_map.mp h
  obtain ⟨d, digit, rfl⟩ := List.mem_map.mp (digits ▸ mem)
  exact Option.isSome_of_eq_some (hexValue?_digitChar (bounds d digit))

/-- What is no hexadecimal digit is in no group. -/
lemma not_mem_groupText (h : hexValue? c = none) : c ∉ groupText g := by
  intro mem
  have digit := hexValue?_isSome_of_mem mem
  rw [h] at digit
  cases digit

/-- No group is written as nothing. -/
lemma groupText_ne_nil (g : Nat) : groupText g ≠ [] := mt List.map_eq_nil_iff.mp Nat.toDigits_ne_nil

/-- A group is read from its text. -/
lemma readGroup?_groupText (h : g < 65536) : readGroup? (groupText g) = some g := by
  have short : (groupText g).length ≤ 4 := by
    rw [groupText, ofChars, List.length_map]
    exact (Nat.length_toDigits_le_iff (by decide) (by decide)).mpr h
  obtain ⟨ds, digits, bounds, value⟩ := exists_hexDigits g
  have written : groupText g = ds.map fun d => .char d.digitChar := by
    rw [groupText, ofChars, digits, List.map_map]
    rfl
  have read : (groupText g).mapM hexValue? = some ds :=
    written ▸ mapM_map_some fun d mem => hexValue?_digitChar (bounds d mem)
  rw [readGroup?, if_neg (by simp [groupText_ne_nil, short]), read]
  exact congrArg some value

/-! ## The groups of a number -/

/-- Every group has sixteen bits. -/
lemma groups_lt (n : Nat) : ∀ g ∈ groups n, g < 65536 := by
  intro g mem
  obtain ⟨i, -, rfl⟩ := List.mem_map.mp mem
  exact Nat.mod_lt _ (by decide)

/-- One more group multiplies the number of those before it by what a group may be. -/
lemma joinGroups_concat (gs : List Nat) (g : Nat) :
    joinGroups (gs ++ [g]) = 65536 * joinGroups gs + g := by
  rw [joinGroups, List.foldl_append]
  rfl

/-- The last groups of a number write what they leave of it. -/
lemma joinGroups_range (k n : Nat) :
    joinGroups ((List.range k).map fun i => n / 65536 ^ (k - 1 - i) % 65536) = n % 65536 ^ k := by
  induction k generalizing n with
  | zero => simp [joinGroups, Nat.mod_one]
  | succ k ih =>
    have front : (List.range k).map (fun i => n / 65536 ^ (k + 1 - 1 - i) % 65536) =
        (List.range k).map fun i => n / 65536 / 65536 ^ (k - 1 - i) % 65536 := by
      refine List.map_congr_left fun i mem => ?_
      have step : k + 1 - 1 - i = k - 1 - i + 1 := by
        have := List.mem_range.mp mem
        omega
      rw [step, Nat.pow_succ', Nat.div_div_eq_div_mul]
    rw [List.range_succ, List.map_append, front, List.map_singleton, joinGroups_concat, ih,
      Nat.pow_succ', Nat.mod_mul, Nat.add_comm]
    simp

/-- The groups of a number make up the number. -/
lemma joinGroups_groups (h : n < 2 ^ 128) : joinGroups (groups n) = n :=
  (joinGroups_range 8 n).trans (Nat.mod_eq_of_lt h)

/-! ## The longest run of zeros -/

/-- Where a run of zeros starts and how long it is at least. -/
def IsRun (gs : List Nat) (run : Nat × Nat) : Prop := run.2 ≤ zeroRun (gs.drop run.1)

/-- The longest zeros of some groups are a run of zeros among them. -/
lemma isRun_longestZeros (gs : List Nat) : IsRun gs (longestZeros gs) := by
  unfold longestZeros
  -- every candidate is compared with the best run so far, which is one
  have best : ∀ (is : List Nat) run, IsRun gs run → IsRun gs (is.foldl
      (fun best i => let run := zeroRun (gs.drop i); if best.2 < run then (i, run) else best)
      run) := by
    intro is
    induction is with
    | nil => exact fun _ h => h
    | cons i is ih =>
      intro run h
      refine ih _ ?_
      dsimp only
      split
      · exact le_refl _
      · exact h
  exact best _ _ (Nat.zero_le _)

/-- As many groups as the run at the front is long are zeros. -/
lemma take_zeroRun {k : Nat} (h : k ≤ zeroRun gs) : gs.take k = List.replicate k 0 := by
  have front : gs.take k = (gs.takeWhile (· == 0)).take k := by
    rw [List.prefix_iff_eq_take.mp (List.takeWhile_prefix (· == 0)), List.take_take]
    exact congrArg (gs.take ·) (min_eq_left h).symm
  rw [front]
  refine List.eq_replicate_iff.mpr ⟨?_, fun g mem => ?_⟩
  · rw [List.length_take]
    exact min_eq_left h
  · simpa using List.mem_takeWhile_imp (List.mem_of_mem_take mem)

/-- A run of zeros stands between the groups before and those behind it. -/
lemma IsRun.split {run : Nat × Nat} (h : IsRun gs run) :
    gs = gs.take run.1 ++ List.replicate run.2 0 ++ gs.drop (run.1 + run.2) := by
  rw [← take_zeroRun h, List.append_assoc, ← List.drop_drop, List.take_append_drop,
    List.take_append_drop]

/-! ## Abbreviated groups -/

/-- What is read between the colons of groups. -/
def pieces (gs : List Nat) : List Text := if gs.isEmpty then [[]] else gs.map groupText

/-- Between the colons stand the groups, one piece each. -/
lemma split_colons (gs : List Nat) : (colons gs).splitOn (.char ':') = pieces gs := by
  unfold pieces
  split
  case isTrue none =>
    rw [List.isEmpty_iff.mp none]
    rfl
  case isFalse some =>
    refine List.splitOn_intercalate _ (fun piece mem => ?_) (by simpa using some)
    obtain ⟨g, -, rfl⟩ := List.mem_map.mp mem
    exact not_mem_groupText (by decide)

/-- Groups are written in colons and hexadecimal digits. -/
lemma mem_colons (h : c ∈ colons gs) : c = .char ':' ∨ (hexValue? c).isSome := by
  rcases mem_join h with colon | ⟨piece, written, mem⟩
  · exact .inl (List.mem_singleton.mp colon)
  · obtain ⟨g, -, rfl⟩ := List.mem_map.mp written
    exact .inr (hexValue?_isSome_of_mem mem)

/-! ## Pieces between colons -/

/-- There is a piece for every group, and one if there are none. -/
lemma length_pieces (gs : List Nat) : (pieces gs).length = max 1 gs.length := by
  cases gs with
  | nil => rfl
  | cons g gs => simp [pieces]

/-- There is at least one piece. -/
lemma pieces_ne_nil (gs : List Nat) : pieces gs ≠ [] := by
  cases gs <;> exact List.cons_ne_nil _ _

/-- What is no hexadecimal digit is in no piece. -/
lemma not_mem_pieces {piece : Text} (h : hexValue? c = none) (mem : piece ∈ pieces gs) :
    c ∉ piece := by
  unfold pieces at mem
  split at mem
  · rw [List.mem_singleton.mp mem]
    exact List.not_mem_nil
  · obtain ⟨g, -, rfl⟩ := List.mem_map.mp mem
    exact not_mem_groupText h

/-- Only a single piece can be blank. -/
lemma filled_pieces {piece : Text} (mem : piece ∈ (pieces gs).tail ∨ piece ∈ (pieces gs).dropLast) :
    piece.isEmpty = false := by
  cases gs with
  | nil => cases mem <;> contradiction
  | cons g gs =>
    have mem : piece ∈ pieces (g :: gs) :=
      mem.elim List.mem_of_mem_tail fun mem => List.dropLast_subset _ mem
    obtain ⟨g', -, rfl⟩ := List.mem_map.mp mem
    simpa using groupText_ne_nil g'

/-- The part at the outer end of a side is blank only where the side has no groups. -/
lemma sideOfZeros?_pieces {outer : Text} (h : gs ≠ [] → outer ∈ pieces gs)
    (none : gs = [] → outer = []) :
    sideOfZeros? (pieces gs) outer = some (gs.map groupText) := by
  cases gs with
  | nil =>
    rw [none rfl]
    rfl
  | cons g gs =>
    obtain ⟨g', -, rfl⟩ := List.mem_map.mp (h (List.cons_ne_nil _ _))
    rw [sideOfZeros?, if_pos (by simpa using groupText_ne_nil g')]
    rfl

/-- Three parts or more without points are the groups of an address. -/
lemma groupsOf?_eq_some {parts : List Text} (parted : splitFrom ':' [] s = parts)
    (many : 3 ≤ parts.length) (plain : ∀ part ∈ parts, .char '.' ∉ part) :
    groupsOf? s = some parts := by
  have some : parts ≠ [] := by
    rintro rfl
    cases many
  have undotted : (parts.getLast some).contains '.' = false := by
    simpa using plain _ (List.getLast_mem some)
  unfold groupsOf?
  rw [parted]
  dsimp only
  rw [if_neg (by omega), List.getLast?_eq_some_getLast some]
  dsimp only
  rw [if_neg (by simpa using undotted)]

/-! ## Reading IPv6 addresses -/

/-- Eight groups are read as the number that they make up. -/
lemma readV6?_colons (eight : gs.length = 8) (bounds : ∀ g ∈ gs, g < 65536) :
    readV6? (colons gs) = some (joinGroups gs) := by
  have some : gs.isEmpty = false := by
    cases gs <;> simp at eight ⊢
  have parted : splitFrom ':' [] (colons gs) = gs.map groupText := by
    have pieces := split_colons gs
    rw [Address.pieces, some] at pieces
    exact (split_eq_splitOn _ _).trans pieces
  have parts : groupsOf? (colons gs) = .some (gs.map groupText) := by
    refine groupsOf?_eq_some parted (by simp [eight]) fun part mem => ?_
    obtain ⟨g, -, rfl⟩ := List.mem_map.mp mem
    exact not_mem_groupText (by decide)
  have inner : (gs.map groupText).tail.dropLast.findIdx? List.isEmpty = none := by
    refine List.findIdx?_eq_none_iff.mpr fun part mem => ?_
    obtain ⟨g, -, rfl⟩ := List.mem_map.mp (List.mem_of_mem_tail (List.dropLast_subset _ mem))
    simpa using groupText_ne_nil g
  unfold readV6?
  rw [parts]
  dsimp only [Option.bind_eq_bind, Option.bind_some]
  rw [inner, if_neg (by simp [eight])]
  dsimp only
  rw [if_pos (by simp [eight]), mapM_map_some fun g mem => readGroup?_groupText (bounds g mem)]
  rfl

/-- The groups on both sides of an abbreviated run of zeros are told apart. -/
lemma aroundZeros?_pieces (few : hs.length + ls.length < 8) :
    aroundZeros? (pieces hs ++ [] :: pieces ls) (pieces hs).length =
      some (hs.map groupText, ls.map groupText) := by
  have high : sideOfZeros? (pieces hs) ((pieces hs).headD []) = some (hs.map groupText) := by
    refine sideOfZeros?_pieces (fun _ => ?_) ?_
    · rw [List.headD_eq_head?_getD, List.head?_eq_some_head (pieces_ne_nil hs)]
      exact List.head_mem _
    · rintro rfl
      rfl
  have low : sideOfZeros? (pieces ls) ((pieces ls).getLastD []) = some (ls.map groupText) := by
    refine sideOfZeros?_pieces (fun _ => ?_) ?_
    · rw [List.getLastD_eq_getLast?, List.getLast?_eq_some_getLast (pieces_ne_nil ls)]
      exact List.getLast_mem _
    · rintro rfl
      rfl
  have behind : (pieces hs ++ [] :: pieces ls).drop ((pieces hs).length + 1) = pieces ls := by
    rw [← List.drop_drop, List.drop_left]
    rfl
  unfold aroundZeros?
  dsimp only
  rw [behind, List.take_left, high, low]
  dsimp only
  rw [if_pos (by simpa using few)]

/-- A double colon leaves an empty piece between the groups in front of it and those behind it. -/
lemma split_abbreviated (hs ls : List Nat) :
    splitFrom ':' [] (colons hs ++ "::" ++ colons ls) = pieces hs ++ [] :: pieces ls := by
  have whole : colons hs ++ ("::" : Text) ++ colons ls =
      colons hs ++ .char ':' :: ([] ++ .char ':' :: colons ls) := by
    rw [List.append_assoc]
    rfl
  refine (split_eq_splitOn _ _).trans ?_
  rw [whole, List.splitOn_append_cons_self, List.splitOn_append_cons_self, split_colons,
    split_colons]
  rfl

/-- So the groups of an abbreviated address are those pieces. -/
lemma groupsOf?_abbreviated (hs ls : List Nat) :
    groupsOf? (colons hs ++ "::" ++ colons ls) = some (pieces hs ++ [] :: pieces ls) := by
  refine groupsOf?_eq_some (split_abbreviated hs ls) ?_ fun part mem => ?_
  · rw [List.length_append, List.length_cons, length_pieces, length_pieces]
    omega
  · rcases List.mem_append.mp mem with mem | mem
    · exact not_mem_pieces (by decide) mem
    · rcases List.mem_cons.mp mem with rfl | mem
      · exact List.not_mem_nil
      · exact not_mem_pieces (by decide) mem

/-- Between the first and the last piece only the run of zeros is blank. -/
lemma blank_piece (hs ls : List Nat) :
    (pieces hs ++ [] :: pieces ls).tail.dropLast =
        (pieces hs).tail ++ [] :: (pieces ls).dropLast ∧
      ((pieces hs).tail ++ [] :: (pieces ls).dropLast).findIdx? List.isEmpty =
        some (pieces hs).tail.length ∧
      (((pieces hs).tail ++ [] :: (pieces ls).dropLast).drop
        ((pieces hs).tail.length + 1)).any List.isEmpty = false := by
  refine ⟨?_, ?_, ?_⟩
  · rw [List.tail_append_of_ne_nil (pieces_ne_nil hs),
      List.dropLast_append_of_ne_nil (List.cons_ne_nil _ _),
      List.dropLast_cons_of_ne_nil (pieces_ne_nil ls)]
  · have front : (pieces hs).tail.findIdx? List.isEmpty = none :=
      List.findIdx?_eq_none_iff.mpr fun _ mem => filled_pieces (.inl mem)
    rw [List.findIdx?_append, front, List.findIdx?_cons]
    simp
  · rw [← List.drop_drop, List.drop_left]
    exact List.any_eq_false.mpr fun part mem => by simp [filled_pieces (.inr mem)]

/-- Groups around a double colon are read as if zeros stood in its place. -/
lemma readV6?_abbreviated (few : hs.length + ls.length < 8) (hbounds : ∀ g ∈ hs, g < 65536)
    (lbounds : ∀ g ∈ ls, g < 65536) :
    readV6? (colons hs ++ "::" ++ colons ls) =
      some (joinGroups (hs ++ List.replicate (8 - hs.length - ls.length) 0 ++ ls)) := by
  obtain ⟨inner, blank, single⟩ := blank_piece hs ls
  have index : (pieces hs).tail.length + 1 = (pieces hs).length := by
    rw [List.length_tail, length_pieces]
    omega
  have short : ¬ 9 < (pieces hs ++ [] :: pieces ls).length := by
    rw [List.length_append, List.length_cons, length_pieces, length_pieces]
    omega
  unfold readV6?
  rw [groupsOf?_abbreviated]
  dsimp only [Option.bind_eq_bind, Option.bind_some]
  rw [inner, blank, if_neg short]
  dsimp only
  rw [single, index, aroundZeros?_pieces few]
  dsimp only [Option.bind_some]
  rw [mapM_map_some fun g mem => readGroup?_groupText (hbounds g mem),
    mapM_map_some fun g mem => readGroup?_groupText (lbounds g mem)]
  rfl

/-- An address of the sixth version is read from its abbreviated text. -/
lemma readV6?_text (h : n < 2 ^ 128) : readV6? (abbreviated n) = some n := by
  have eight : (groups n).length = 8 := by simp [groups]
  unfold abbreviated
  dsimp only
  split
  case isFalse =>
    rw [readV6?_colons eight (groups_lt n), joinGroups_groups h]
  case isTrue long =>
    have whole := (isRun_longestZeros (groups n)).split
    generalize longestZeros (groups n) = run at whole long ⊢
    have lengths := congrArg List.length whole
    rw [List.length_append, List.length_append, List.length_replicate, eight] at lengths
    have hbounds : ∀ g ∈ (groups n).take run.1, g < 65536 := fun g mem =>
      groups_lt n g (List.mem_of_mem_take mem)
    have lbounds : ∀ g ∈ (groups n).drop (run.1 + run.2), g < 65536 := fun g mem =>
      groups_lt n g (List.mem_of_mem_drop mem)
    have zeros : 8 - ((groups n).take run.1).length - ((groups n).drop (run.1 + run.2)).length =
        run.2 := by omega
    rw [readV6?_abbreviated (by omega) hbounds lbounds, zeros, ← whole, joinGroups_groups h]

/-! ## Reading addresses -/

/-- An abbreviated address is written in colons and hexadecimal digits. -/
lemma mem_abbreviated (h : c ∈ abbreviated n) : c = .char ':' ∨ (hexValue? c).isSome := by
  unfold abbreviated at h
  dsimp only at h
  split at h
  · rcases List.mem_append.mp h with mem | mem
    · rcases List.mem_append.mp mem with mem | mem
      · exact mem_colons mem
      · refine .inl ?_
        simpa using (show c ∈ [.char ':', .char ':'] from mem)
    · exact mem_colons mem
  · exact mem_colons h

/-- Nothing else is in it. -/
lemma not_mem_abbreviated (h : hexValue? c = none) (other : c ≠ .char ':') :
    c ∉ abbreviated n := by
  intro mem
  rcases mem_abbreviated mem with colon | digit
  · exact other colon
  · rw [h] at digit
    cases digit

/-- Whether an address has no zone and a number that its family has room for. -/
inductive Plain : Address → Prop where
  | v4 {n : Nat} : n < 2 ^ 32 → Plain (.v4 n)
  | v6 {n : Nat} : n < 2 ^ 128 → Plain (.v6 n none)

/-- An address without a zone is read from its text. -/
lemma read?_text {a : Address} (h : a.Plain) : read? a.text = some a := by
  cases h with
  | @v4 n h =>
    have unslashed : (dotted n).contains (.char '/') = false := by
      simpa using slash_not_mem_dotted n
    rw [text, read?, unslashed, readV4?_dotted h]
    rfl
  | @v6 n h =>
    have unslashed : (abbreviated n).contains (.char '/') = false := by
      simpa using not_mem_abbreviated (by decide) (by decide)
    have undotted : readV4? (abbreviated n) = none := by
      have one : splitFrom '.' [] (abbreviated n) = [abbreviated n] :=
        (split_eq_splitOn _ _).trans
          (List.splitOn_eq_singleton (not_mem_abbreviated (by decide) (by decide)))
      rw [readV4?, one]
    have zoneless : readZoned? (abbreviated n) = some (.v6 n none) := by
      rw [readZoned?, breakAt_of_not_mem (not_mem_abbreviated (by decide) (by decide))]
      dsimp only
      rw [readV6?_text h]
      rfl
    rw [text, read?, unslashed, undotted, zoneless]
    rfl

/-! ## What is read fits -/

/-- Digits below a base write a number below its power. -/
lemma foldl_lt {b : Nat} {ds : List Nat} (bounds : ∀ d ∈ ds, d < b) :
    ds.foldl (fun n d => b * n + d) 0 < b ^ ds.length := by
  induction ds using List.reverseRecOn with
  | nil => simp
  | append_singleton ds d ih =>
    have ih := ih fun d mem => bounds d (List.mem_append_left _ mem)
    have last := bounds d (by simp)
    rw [List.foldl_append, List.length_append, List.length_singleton, Nat.pow_succ']
    calc b * ds.foldl (fun n d => b * n + d) 0 + d
      _ < b * (ds.foldl (fun n d => b * n + d) 0 + 1) := Nat.add_lt_add_left last _
      _ ≤ b * b ^ ds.length := Nat.mul_le_mul_left b ih

/-- An octet has eight bits when it is read. -/
lemma readOctet?_lt (h : readOctet? s = some n) : n < 256 := by
  unfold readOctet? at h
  split at h
  · cases h
  · dsimp only at h
    split at h
    · cases h
      omega
    · cases h

/-- An address of the fourth version has thirty-two bits when it is read. -/
lemma readV4?_lt (h : readV4? s = some n) : n < 2 ^ 32 := by
  unfold readV4? at h
  split at h
  · obtain ⟨a, first, h⟩ := Option.bind_eq_some_iff.mp h
    obtain ⟨b, second, h⟩ := Option.bind_eq_some_iff.mp h
    obtain ⟨c, third, h⟩ := Option.bind_eq_some_iff.mp h
    obtain ⟨d, fourth, h⟩ := Option.bind_eq_some_iff.mp h
    cases h
    have := readOctet?_lt first
    have := readOctet?_lt second
    have := readOctet?_lt third
    have := readOctet?_lt fourth
    omega
  · cases h

/-- A hexadecimal digit has four bits. -/
lemma hexValue?_lt (h : hexValue? c = some n) : n < 16 := by
  unfold hexValue? at h
  split_ifs at h <;> cases h <;> omega

/-- A group has sixteen bits when it is read. -/
lemma readGroup?_lt (h : readGroup? s = some g) : g < 65536 := by
  unfold readGroup? at h
  split at h
  · cases h
  · rename_i sized
    obtain ⟨ds, read, rfl⟩ := Option.map_eq_some_iff.mp h
    obtain ⟨length, given⟩ := of_mapM_some read
    have bounds : ∀ d ∈ ds, d < 16 := by
      intro d mem
      obtain ⟨_, -, value⟩ := given d mem
      exact hexValue?_lt value
    calc ds.foldl (fun n d => 16 * n + d) 0
      _ < 16 ^ ds.length := foldl_lt bounds
      _ ≤ 16 ^ 4 := Nat.pow_le_pow_right (by decide) (by omega)

/-- Eight groups of sixteen bits make up a number of 128 bits. -/
lemma joinGroups_lt (eight : gs.length = 8) (bounds : ∀ g ∈ gs, g < 65536) :
    joinGroups gs < 2 ^ 128 := by
  have less := foldl_lt bounds
  rw [eight] at less
  exact less

/-- Groups that are read have sixteen bits each. -/
lemma readGroups_lt {parts : List Text} (h : parts.mapM readGroup? = some gs) :
    gs.length = parts.length ∧ ∀ g ∈ gs, g < 65536 := by
  obtain ⟨length, given⟩ := of_mapM_some h
  refine ⟨length, fun g mem => ?_⟩
  obtain ⟨_, -, read⟩ := given g mem
  exact readGroup?_lt read

/-- A double colon stands for at least one group. -/
lemma aroundZeros?_few {parts high low : List Text} {i : Nat}
    (h : aroundZeros? parts i = some (high, low)) : high.length + low.length < 8 := by
  unfold aroundZeros? at h
  dsimp only at h
  split at h
  · split at h
    · cases h
      assumption
    · cases h
  · cases h

/-- An address of the sixth version has 128 bits when it is read. -/
lemma readV6?_lt (h : readV6? s = some n) : n < 2 ^ 128 := by
  obtain ⟨parts, -, h⟩ := Option.bind_eq_some_iff.mp h
  dsimp only at h
  split at h
  · cases h
  split at h
  · split at h
    · rename_i eight
      obtain ⟨gs, read, h⟩ := Option.bind_eq_some_iff.mp h
      cases h
      obtain ⟨length, bounds⟩ := readGroups_lt read
      exact joinGroups_lt (length.trans eight) bounds
    · cases h
  · split at h
    · cases h
    · obtain ⟨⟨high, low⟩, around, h⟩ := Option.bind_eq_some_iff.mp h
      obtain ⟨hs, readHigh, h⟩ := Option.bind_eq_some_iff.mp h
      obtain ⟨ls, readLow, h⟩ := Option.bind_eq_some_iff.mp h
      cases h
      have few := aroundZeros?_few around
      obtain ⟨hlength, hbounds⟩ := readGroups_lt readHigh
      obtain ⟨llength, lbounds⟩ := readGroups_lt readLow
      rw [← hlength, ← llength] at few
      refine joinGroups_lt ?_ fun g mem => ?_
      · rw [List.length_append, List.length_append, List.length_replicate]
        omega
      · rcases List.mem_append.mp mem with mem | mem
        · rcases List.mem_append.mp mem with mem | mem
          · exact hbounds g mem
          · rw [List.eq_of_mem_replicate mem]
            decide
        · exact lbounds g mem

end ProxyFleet.Address
