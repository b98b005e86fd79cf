import Mathlib.Data.List.Basic
import ProxyFleet.Filter.Arrangement

/-!
# Arranging keeps the elements

Whatever a comparison answers, and however the answers contradict each other, arranging a list moves
its elements and neither loses one nor makes one: what comes out is a permutation of what went in.
-/

namespace ProxyFleet.Arrangement
open scoped List

variable {α : Type} {less? : α → α → Option Bool} {xs ys zs start rest : List α}

/-! ## Runs -/

/-- A run and what is left behind it are the elements in their order. -/
lemma splitRun_append {falling : Bool} {x : α}
    (h : splitRun less? falling x xs = some (start, rest)) : start ++ rest = x :: xs := by
  induction xs generalizing x start with
  | nil =>
    cases h
    rfl
  | cons y ys ih =>
    obtain ⟨b, -, h⟩ := Option.bind_eq_some_iff.mp h
    split at h
    · obtain ⟨⟨start', rest'⟩, run, h⟩ := Option.bind_eq_some_iff.mp h
      cases h
      rw [List.cons_append, ih run]
    · cases h
      rfl

/-- The first run and what is left behind it are the elements. -/
lemma firstRun_perm (h : firstRun less? xs = some (start, rest)) : start ++ rest ~ xs := by
  rcases xs with _ | ⟨x, _ | ⟨y, ys⟩⟩
  · cases h
    exact .nil
  · cases h
    exact .refl _
  · obtain ⟨falling, -, h⟩ := Option.bind_eq_some_iff.mp h
    obtain ⟨⟨run, rest'⟩, split, h⟩ := Option.bind_eq_some_iff.mp h
    cases h
    rw [← splitRun_append split]
    split
    · exact run.reverse_perm.append_right _
    · exact .refl _

/-- Halving never looks past the end of its interval. -/
lemma halve_le {before : α → Option Bool} {low high i : Nat}
    (h : halve before xs low high = some i) (le : low ≤ high) : i ≤ high := by
  generalize width : high - low = n
  induction n using Nat.strongRecOn generalizing low high with
  | ind n ih =>
    unfold halve at h
    split at h
    · obtain ⟨b, -, h⟩ := Option.bind_eq_some_iff.mp h
      split at h
      · exact ih _ (by omega) h (by omega) rfl
      · exact Nat.le_trans (ih _ (by omega) h (by omega) rfl) (by omega)
    · cases h
      exact le

/-- Insertion gives the sorted elements and the new ones. -/
lemma insertAll_perm (h : insertAll less? ys xs = some zs) : zs ~ ys ++ xs := by
  induction xs generalizing ys with
  | nil =>
    cases h
    rw [List.append_nil]
  | cons x rest ih =>
    obtain ⟨i, place, h⟩ := Option.bind_eq_some_iff.mp h
    have inserted : ys.insertIdx i x ~ x :: ys :=
      List.perm_insertIdx x ys (halve_le place (Nat.zero_le _))
    calc zs
      _ ~ ys.insertIdx i x ++ rest := ih h
      _ ~ x :: (ys ++ rest) := inserted.append_right rest
      _ ~ ys ++ x :: rest := List.perm_middle.symm

/-- The next run and what is left behind it are the elements. -/
lemma nextRun_perm {length : Nat} (h : nextRun less? length xs = some (start, rest)) :
    start ++ rest ~ xs := by
  obtain ⟨⟨first, others⟩, run, h⟩ := Option.bind_eq_some_iff.mp h
  obtain ⟨filled, inserted, h⟩ := Option.bind_eq_some_iff.mp h
  cases h
  calc start ++ others.drop (length - first.length)
    _ ~ (first ++ others.take (length - first.length)) ++ others.drop (length - first.length) :=
      (insertAll_perm inserted).append_right _
    _ = first ++ others := by rw [List.append_assoc, List.take_append_drop]
    _ ~ xs := firstRun_perm run

/-! ## Merges -/

/-- Whether a merge, if it comes to an end, gives the elements of a list and no others. -/
def Keeps (zs : List α) (outcome : Option (List α × Nat)) : Prop :=
  ∀ merged pace, outcome = some (merged, pace) → merged ~ zs

/-- A merge that is settled gives the elements of both runs. -/
lemma settled?_perm {fromRight : Bool} (h : settled? fromRight xs ys = some zs) :
    zs ~ xs ++ ys := by
  unfold settled? at h
  split at h <;> cases h
  · exact .refl _
  · rw [List.append_nil]
  · exact List.perm_append_comm
  · exact .refl _

/-- An element between two lists may stand in front of them. -/
lemma perm_middle {y : α} (xs : List α) : [y] ++ (xs ++ ys) ~ xs ++ y :: ys :=
  (List.perm_middle : xs ++ y :: ys ~ y :: (xs ++ ys)).symm

/-- A beginning that stands in front of another list can be put back. -/
lemma take_append_drop_perm (n : Nat) (xs ys : List α) :
    ys.take n ++ (xs ++ ys.drop n) ~ xs ++ ys := by
  calc ys.take n ++ (xs ++ ys.drop n)
    _ ~ xs ++ (ys.take n ++ ys.drop n) := List.perm_append_comm_assoc _ _ _
    _ = xs ++ ys := by rw [List.take_append_drop]

namespace Keeps

variable {outcome : Option (List α × Nat)}

/-- A rearrangement of the elements keeps them. -/
lemma some (h : xs ~ zs) (pace : Nat) : Keeps zs (some (xs, pace)) := by
  rintro _ _ ⟨⟩
  exact h

/-- What keeps some elements keeps them in any order. -/
lemma perm (h : Keeps xs outcome) (same : xs ~ zs) : Keeps zs outcome :=
  fun merged pace eq => (h merged pace eq).trans same

/-- What keeps the elements on every outcome of a step keeps them after the step. -/
lemma bind {β : Type} {x : Option β} {f : β → Option (List α × Nat)} (hf : ∀ b, Keeps zs (f b)) :
    Keeps zs (x >>= f) := by
  intro merged pace eq
  obtain ⟨b, -, eq⟩ := Option.bind_eq_some_iff.mp eq
  exact hf b merged pace eq

/-- Elements in front of an outcome are kept with those of the outcome. -/
lemma behind (moved : List α) (h : Keeps zs outcome) :
    Keeps (moved ++ zs) (behind moved outcome) := by
  intro merged pace eq
  obtain ⟨⟨others, pace'⟩, ended, eq⟩ := Option.map_eq_some_iff.mp eq
  cases eq
  exact (h others pace ended).append_left moved

/-- A merge keeps the elements if it does so while it is not settled. -/
lemma unlessSettled (fromRight : Bool) (pace : Nat) (h : Keeps (xs ++ ys) outcome) :
    Keeps (xs ++ ys) (unlessSettled fromRight pace xs ys outcome) := by
  unfold Arrangement.unlessSettled
  split
  · rename_i settled
    exact .some (settled?_perm settled) pace
  · exact h

end Keeps

/-- A merge in one direction, from any gait, keeps the elements of both runs. -/
lemma mergeFrom_keeps (fromRight : Bool) (fuel : Nat) (gait : Gait) (pace : Nat) (xs ys : List α) :
    Keeps (xs ++ ys) (mergeFrom less? fromRight fuel gait pace xs ys) := by
  -- every step moves elements to the front, whatever it has compared
  induction fuel generalizing gait pace xs ys with
  | zero => exact .some (.refl _) pace
  | succ fuel ih =>
    unfold mergeFrom
    refine .unlessSettled _ _ ?_
    split
    case h_1 x xs y ys =>
      refine .bind fun wins => ?_
      split
      · exact ((ih _ _ (x :: xs) ys).behind [y]).perm (perm_middle (x :: xs))
      · exact (ih _ _ xs (y :: ys)).behind [x]
    case h_2 again y ys =>
      refine .bind fun n => ?_
      have moved : ∀ {outcome} pace, Keeps (xs.drop n ++ ys) outcome → Keeps (xs ++ y :: ys)
          (behind (xs.take n) (unlessSettled fromRight pace (xs.drop n) (y :: ys) (behind [y]
            (unlessSettled fromRight pace (xs.drop n) ys outcome)))) := by
        intro outcome pace others
        have next := ((others.unlessSettled fromRight pace).behind [y]).perm
          (perm_middle (xs.drop n))
        have front := (next.unlessSettled fromRight pace).behind (xs.take n)
        rwa [← List.append_assoc, List.take_append_drop] at front
      refine moved _ ?_
      split
      · rename_i none
        rw [none]
        exact .some (.refl _) _
      · rename_i x xs more
        rw [more]
        refine .bind fun m => ?_
        refine .perm (.behind (ys.take m) ?_) (take_append_drop_perm m (x :: xs) ys)
        refine .unlessSettled _ _ (.behind [x] (.unlessSettled _ _ ?_))
        split
        · exact ih _ _ _ _
        · exact ih _ _ _ _
    case h_3 => exact .some (.refl _) pace

/-- A merge from the left keeps the elements of both runs. -/
lemma mergeLeft_keeps (pace : Nat) (xs ys : List α) :
    Keeps (xs ++ ys) (mergeLeft less? pace xs ys) :=
  ((mergeFrom_keeps false _ _ pace xs (ys.drop 1)).behind (ys.take 1)).perm
    (take_append_drop_perm 1 xs ys)

/-- A merge from the right keeps the elements of both runs. -/
lemma mergeRight_keeps (pace : Nat) (xs ys : List α) :
    Keeps (xs ++ ys) (mergeRight less? pace xs ys) := by
  intro merged pace' eq
  obtain ⟨⟨turned, pace''⟩, ended, eq⟩ := Option.map_eq_some_iff.mp eq
  cases eq
  have moved := (mergeFrom_keeps _ _ _ _ _ _).behind _ _ _ ended
  rw [← List.append_assoc, List.take_append_drop] at moved
  calc turned.reverse
    _ ~ turned := turned.reverse_perm
    _ ~ xs.reverse ++ ys.reverse := moved
    _ ~ xs ++ ys := xs.reverse_perm.append ys.reverse_perm

/-- A merge keeps the elements of both runs. -/
lemma merge_keeps (pace : Nat) (xs ys : List α) : Keeps (xs ++ ys) (merge less? pace xs ys) := by
  unfold merge
  split
  case h_1 none =>
    rw [List.head?_eq_none_iff.mp none, List.append_nil]
    exact .some (.refl _) pace
  refine .bind fun begin => ?_
  split
  case h_1 none =>
    rw [List.getLast?_eq_none_iff.mp none]
    exact .some (.refl _) pace
  split
  · exact .some (.refl _) pace
  refine .bind fun stop => ?_
  have parts : xs.take begin ++ (xs.drop begin ++ ys.take stop) ++ ys.drop stop = xs ++ ys := by
    rw [← List.append_assoc, List.take_append_drop, List.append_assoc, List.take_append_drop]
  rw [← parts]
  dsimp only
  split
  · rename_i none
    rw [List.isEmpty_iff.mp none, List.append_nil]
    exact .some (.refl _) pace
  · have placed : ∀ {outcome}, Keeps (xs.drop begin ++ ys.take stop) outcome → Keeps
        (xs.take begin ++ (xs.drop begin ++ ys.take stop) ++ ys.drop stop) (outcome >>= fun p =>
          Option.some (xs.take begin ++ p.1 ++ ys.drop stop, p.2)) := by
      intro outcome between merged pace' eq
      obtain ⟨⟨middle, pace''⟩, ended, eq⟩ := Option.bind_eq_some_iff.mp eq
      cases eq
      exact ((between _ _ ended).append_left _).append_right _
    split
    · exact placed (mergeLeft_keeps _ _ _)
    · exact placed (mergeRight_keeps _ _ _)

/-! ## The whole list -/

/-- The elements of runs. -/
def content (runs : List (Run α)) : List α := runs.flatMap Run.items

variable {runs : List (Run α)} {run left right last : Run α} {p p' : Progress α} {pace pace' : Nat}

/-- No runs have no elements. -/
@[simp] lemma content_nil : content ([] : List (Run α)) = [] := rfl

/-- The elements of runs are those of the first and those of the others. -/
@[simp] lemma content_cons : content (run :: runs) = run.items ++ content runs := rfl

/-- Joined runs have the elements of both. -/
lemma join_perm (h : join less? pace left right = some (run, pace')) :
    run.items ~ left.items ++ right.items := by
  obtain ⟨⟨items, _⟩, merged, h⟩ := Option.bind_eq_some_iff.mp h
  cases h
  exact merge_keeps _ _ _ _ _ merged

/-- Settled runs have the elements of the last run and of the others. -/
lemma settle_perm {depth : Nat} (h : settle less? depth last runs pace = some p) :
    content p.runs ~ last.items ++ content runs := by
  induction runs generalizing last pace with
  | nil =>
    cases h
    exact .refl _
  | cons run runs ih =>
    unfold settle at h
    split at h
    · obtain ⟨⟨joined, pace'⟩, merged, h⟩ := Option.bind_eq_some_iff.mp h
      calc content p.runs
        _ ~ joined.items ++ content runs := ih h
        _ ~ (run.items ++ last.items) ++ content runs := (join_perm merged).append_right _
        _ ~ (last.items ++ run.items) ++ content runs := List.perm_append_comm.append_right _
        _ = last.items ++ content (run :: runs) := by rw [content_cons, List.append_assoc]
    · cases h
      exact .refl _

/-- Runs that are joined to make room have the elements that they had. -/
lemma makeRoom_perm {n length : Nat} (h : makeRoom less? n length p = some p') :
    content p'.runs ~ content p.runs := by
  unfold makeRoom at h
  split at h
  · cases h
    exact .refl _
  · rename_i last runs eq
    rw [eq]
    exact settle_perm h

/-- Collected runs have the elements of the list and of the runs before it. -/
lemma collect_perm {n fuel : Nat} (h : collect less? n fuel p xs = some p') :
    content p'.runs ~ xs ++ content p.runs := by
  induction fuel generalizing p xs with
  | zero =>
    cases h
    exact .refl _
  | succ fuel ih =>
    unfold collect at h
    split at h
    · rename_i none
      cases h
      rw [List.isEmpty_iff.mp none]
      exact .refl _
    · obtain ⟨⟨run, rest⟩, next, h⟩ := Option.bind_eq_some_iff.mp h
      obtain ⟨room, made, h⟩ := Option.bind_eq_some_iff.mp h
      calc content p'.runs
        _ ~ rest ++ (run ++ content room.runs) := ih h
        _ ~ run ++ (rest ++ content room.runs) := List.perm_append_comm_assoc _ _ _
        _ = (run ++ rest) ++ content room.runs := by rw [List.append_assoc]
        _ ~ xs ++ content p.runs := (nextRun_perm next).append (makeRoom_perm made)

/-- Runs that are all merged give their elements. -/
lemma mergeAll_perm {fuel : Nat} (h : mergeAll less? fuel runs pace = some zs) :
    zs ~ content runs := by
  induction fuel generalizing runs pace with
  | zero =>
    cases h
    exact runs.reverse_perm.flatMap_right _
  | succ fuel ih =>
    unfold mergeAll at h
    rcases runs with _ | ⟨c, _ | ⟨b, _ | ⟨a, runs⟩⟩⟩ <;> dsimp only at h
    · cases h
      exact .nil
    · cases h
      simp
    · obtain ⟨⟨bc, pace'⟩, joined, h⟩ := Option.bind_eq_some_iff.mp h
      cases h
      calc bc.items
        _ ~ c.items ++ b.items := (join_perm joined).trans List.perm_append_comm
        _ = content [c, b] := by simp
    · split at h
      · obtain ⟨⟨ab, pace'⟩, joined, h⟩ := Option.bind_eq_some_iff.mp h
        calc zs
          _ ~ c.items ++ (ab.items ++ content runs) := ih h
          _ ~ c.items ++ ((b.items ++ a.items) ++ content runs) :=
            (((join_perm joined).trans List.perm_append_comm).append_right _).append_left _
          _ = content (c :: b :: a :: runs) := by simp
      · obtain ⟨⟨bc, pace'⟩, joined, h⟩ := Option.bind_eq_some_iff.mp h
        calc zs
          _ ~ bc.items ++ (a.items ++ content runs) := ih h
          _ ~ (c.items ++ b.items) ++ (a.items ++ content runs) :=
            ((join_perm joined).trans List.perm_append_comm).append_right _
          _ = content (c :: b :: a :: runs) := by simp

/-- What arranging gives is a permutation of the list. -/
lemma arrange_perm (h : arrange less? xs = some ys) : ys ~ xs := by
  obtain ⟨p, collected, h⟩ := Option.bind_eq_some_iff.mp h
  calc ys
    _ ~ content p.runs := mergeAll_perm h
    _ ~ xs ++ [] := collect_perm collected
    _ = xs := List.append_nil xs

end ProxyFleet.Arrangement
