import Mathlib.Algebra.Order.Ring.Nat
import Mathlib.Data.List.Nodup
import Mathlib.Data.List.Perm.Basic
import Mathlib.Logic.Relation
import ProxyFleet.Gather
import ProxyFleet.Proofs.Outcome

/-!
# Gathered branches

Branches that are awaited together take their turns in any order. `Step` says what one turn of one
branch may do. In whatever order the turns are taken, all of them are taken in the end unless a
coroutine asks for the end of the process, and then every branch has ended exactly once. What has
been gathered by then does not depend on the order: it is the values of all branches, or the failure
of the first branch, in the order of the branches, that has failed.
-/

namespace ProxyFleet

/-- A branch in its last turn. -/
def Branch.last {α : Type} (b : Branch α) : Branch α := { b with turns := 0 }

/-- Whether the end of a branch is the end of all: it is a coroutine that asks for the end of the
process, and that breaks off the loop in which all branches run. -/
def Branch.stopsAll {α : Type} (b : Branch α) : Bool :=
  match b.outcome with
  | .error (.cancelled (.exit _ _)) => !b.future
  | _ => false

namespace Gather

variable {α β : Type}

/-- What stands for a branch while branches are awaited: the branch itself, with the turns that it
still gives away, or the branch in its last turn, which is over. -/
inductive Slot (α : Type) where
  | waiting (b : Branch α)
  | ended (b : Branch α)

namespace Slot

/-- What becomes of a branch in the end. -/
def last : Slot α → Branch α
  | waiting b | ended b => b.last

/-- Whether a branch has ended. -/
def isEnded : Slot α → Bool
  | waiting _ => false
  | ended _ => true

/-- Whether a branch has ended and with it all of them. -/
def stopsAll : Slot α → Bool
  | waiting _ => false
  | ended b => b.stopsAll

/-- How many turns a branch still takes, the one in which it ends included. -/
def turns : Slot α → Nat
  | waiting b => b.turns + 1
  | ended _ => 0

end Slot

/-- Awaited branches, and the indexes of those that have ended in the order in which they did. -/
structure State (α : Type) where
  slots : List (Slot α)
  order : List Nat

namespace State

/-- Branches that have taken no turn. -/
def start (branches : List (Branch α)) : State α := ⟨branches.map .waiting, []⟩

/-- Whether no branch has asked for the end of the process. -/
def goesOn (s : State α) : Bool := !s.slots.any Slot.stopsAll

/-- What has been gathered, nothing before the last branch has ended. -/
def result? (s : State α) : Option (Except Failure (List α)) :=
  if s.goesOn ∧ s.slots.all Slot.isEnded then
    some (collect (s.slots.map fun slot => slot.last.seen))
  else none

/-- How many turns all branches still take. -/
def turns (s : State α) : Nat := (s.slots.map Slot.turns).sum

end State

/-- A turn of one branch: it lets the others go on, or it ends. -/
inductive Step : State α → State α → Prop where
  | turn {slots order i n outcome future} : State.goesOn ⟨slots, order⟩ →
    slots[i]? = some (.waiting ⟨n + 1, outcome, future⟩) →
    Step ⟨slots, order⟩ ⟨slots.set i (.waiting ⟨n, outcome, future⟩), order⟩
  | finish {slots order i outcome future} : State.goesOn ⟨slots, order⟩ →
    slots[i]? = some (.waiting ⟨0, outcome, future⟩) →
    Step ⟨slots, order⟩ ⟨slots.set i (.ended ⟨0, outcome, future⟩), order ++ [i]⟩

/-- Turns one after another. -/
abbrev Steps : State α → State α → Prop := Relation.ReflTransGen Step

variable {branches : List (Branch α)} {s t : State α} {slots : List (Slot α)} {slot new : Slot α}
  {order : List Nat} {i j n fuel : Nat} {x : Except Failure α} {e e' : Failure}
  {waiting rest : List (Nat × Nat)}

/-! ## Turns -/

/-- Another slot in the place of one changes a sum over all slots by what they differ in. -/
lemma sum_set (f : Slot α → Nat) (found : slots[i]? = some slot) (new : Slot α) :
    ((slots.set i new).map f).sum + f slot = (slots.map f).sum + f new := by
  induction slots generalizing i with
  | nil => cases found
  | cons first slots ih =>
    cases i with
    | zero =>
      cases found
      simp only [List.set_cons_zero, List.map_cons, List.sum_cons]
      omega
    | succ i =>
      have := ih (by simpa using found : slots[i]? = some slot)
      simp only [List.set_cons_succ, List.map_cons, List.sum_cons]
      omega

/-- There are fewer turns to take after a step. -/
lemma Step.turns_lt (step : Step s t) : t.turns < s.turns := by
  cases step with
  | @turn slots _ _ n outcome future _ found =>
    have := sum_set Slot.turns found (.waiting ⟨n, outcome, future⟩)
    simp only [State.turns, Slot.turns] at this ⊢
    omega
  | @finish slots _ _ outcome future _ found =>
    have := sum_set Slot.turns found (.ended ⟨0, outcome, future⟩)
    simp only [State.turns, Slot.turns] at this ⊢
    omega

/-- Turns cannot be taken for ever. -/
lemma wellFounded_step : WellFounded fun t s : State α => Step s t :=
  Subrelation.wf Step.turns_lt (measure State.turns).wf

/-- A branch that waits can take its turn, as long as the process goes on. -/
lemma exists_step {b : Branch α} (goesOn : s.goesOn)
    (found : s.slots[i]? = some (.waiting b)) : ∃ t, Step s t := by
  obtain ⟨_ | n, outcome, future⟩ := b
  · exact ⟨_, .finish goesOn found⟩
  · exact ⟨_, .turn goesOn found⟩

/-! ## What every turn keeps -/

/-- A list in which one element has been replaced has the new one there and the old ones
elsewhere. -/
lemma getElem?_set_of (found : slots[i]? = some slot) (new : Slot α) (j : Nat) :
    (slots.set i new)[j]? = if i = j then some new else slots[j]? := by
  have within : i < slots.length := (List.getElem?_eq_some_iff.mp found).1
  rw [List.getElem?_set, if_pos within]

/-- What holds of branches in every order of their turns: each ends as it would alone, and just
those that have ended are in the order of endings, each once. -/
structure Tracks (branches : List (Branch α)) (s : State α) : Prop where
  lasts : s.slots.map Slot.last = branches.map Branch.last
  nodup : s.order.Nodup
  mem_order : ∀ i, i ∈ s.order ↔ ∃ b, s.slots[i]? = some (.ended b)

namespace Tracks

/-- It holds when the branches are first awaited. -/
lemma start (branches : List (Branch α)) : Tracks branches (.start branches) := by
  refine ⟨?_, List.nodup_nil, fun i => ?_⟩
  · simp [State.start, Function.comp_def, Slot.last]
  · simp [State.start]

/-- A turn does not change what becomes of the branches. -/
lemma lasts_set (found : slots[i]? = some slot) (same : new.last = slot.last) :
    (slots.set i new).map Slot.last = slots.map Slot.last := by
  refine List.ext_getElem? fun j => ?_
  rw [List.getElem?_map, List.getElem?_map, getElem?_set_of found]
  split
  case isTrue eq => rw [← eq, found, Option.map_some, Option.map_some, same]
  case isFalse => rfl

/-- Every turn keeps it. -/
lemma step (h : Tracks branches s) (step : Step s t) : Tracks branches t := by
  cases step with
  | @turn slots order i n outcome future _ found =>
    have same : (Slot.waiting ⟨n, outcome, future⟩).last =
        (Slot.waiting ⟨n + 1, outcome, future⟩).last := rfl
    refine ⟨(lasts_set found same).trans h.lasts, h.nodup, fun j => ?_⟩
    rw [getElem?_set_of found, h.mem_order]
    split
    case isTrue eq => simp [← eq, found]
    case isFalse => rfl
  | @finish slots order i outcome future _ found =>
    have fresh : i ∉ order := fun mem => by
      obtain ⟨b, ended⟩ := (h.mem_order i).mp mem
      cases found.symm.trans ended
    have same : (Slot.ended ⟨0, outcome, future⟩).last =
        (Slot.waiting ⟨0, outcome, future⟩).last := rfl
    refine ⟨(lasts_set found same).trans h.lasts, ?_, fun j => ?_⟩
    · exact List.nodup_append.mpr ⟨h.nodup, List.nodup_singleton i, by
        rintro j mem _ last rfl
        exact fresh (List.mem_singleton.mp last ▸ mem)⟩
    · rw [getElem?_set_of found, List.mem_append, List.mem_singleton, h.mem_order]
      split
      case isTrue eq => simp [eq]
      case isFalse other => simp [Ne.symm other]

/-- So it holds in whatever order turns are taken. -/
lemma steps (h : Tracks branches s) (steps : Steps s t) : Tracks branches t := by
  induction steps with
  | refl => exact h
  | tail _ last ih => exact ih.step last

/-- When all branches have ended, each has ended once, and what is gathered is what they give. -/
lemma all_ended (h : Tracks branches s) (goesOn : s.goesOn)
    (ended : s.slots.all Slot.isEnded = true) :
    s.result? = some (run branches) ∧ s.order.Perm (List.range branches.length) := by
  have gathered : (s.slots.map fun slot => slot.last.seen) = branches.map Branch.seen := by
    have seen := congrArg (List.map Branch.seen) h.lasts
    rw [List.map_map, List.map_map] at seen
    exact seen
  refine ⟨by rw [State.result?, if_pos ⟨goesOn, ended⟩, gathered, run], ?_⟩
  have length : s.slots.length = branches.length := by simpa using congrArg List.length h.lasts
  refine (List.perm_ext_iff_of_nodup h.nodup List.nodup_range).mpr fun i => ?_
  rw [h.mem_order, List.mem_range, ← length]
  constructor
  · rintro ⟨b, ended⟩
    exact (List.getElem?_eq_some_iff.mp ended).1
  · intro within
    have ended := List.all_eq_true.mp ended _ (List.getElem_mem within)
    rw [List.getElem?_eq_getElem within]
    cases slot : s.slots[i] with
    | waiting b =>
      rw [slot] at ended
      cases ended
    | ended b => exact ⟨b, rfl⟩

/-- When the process is to end, that is because a branch that has ended asked for it. -/
lemma exists_stopsAll (h : Tracks branches s) (stopped : ¬ s.goesOn) :
    ∃ i ∈ s.order, ∃ b, branches[i]? = some b ∧ b.stopsAll := by
  simp only [State.goesOn, Bool.not_eq_true', Bool.not_eq_false, List.any_eq_true] at stopped
  obtain ⟨slot, mem, stops⟩ := stopped
  obtain ⟨i, found⟩ := List.mem_iff_getElem?.mp mem
  cases slot with
  | waiting => cases stops
  | ended c =>
    refine ⟨i, (h.mem_order i).mpr ⟨c, found⟩, ?_⟩
    have last : (s.slots.map Slot.last)[i]? = some c.last := by
      rw [List.getElem?_map, found]
      rfl
    rw [h.lasts, List.getElem?_map, Option.map_eq_some_iff] at last
    obtain ⟨b, given, same⟩ := last
    have same : b.last.stopsAll = c.last.stopsAll := congrArg _ same
    exact ⟨b, given, same.trans stops⟩

end Tracks

/-- As long as the process goes on and nothing has been gathered, some branch can take its turn. -/
lemma exists_step_of_not_ended (goesOn : s.goesOn) (h : ¬ s.slots.all Slot.isEnded = true) :
    s.result? = none ∧ ∃ t, Step s t := by
  refine ⟨if_neg fun both => h both.2, ?_⟩
  simp only [List.all_eq_true, not_forall] at h
  obtain ⟨slot, mem, waits⟩ := h
  obtain ⟨i, found⟩ := List.mem_iff_getElem?.mp mem
  cases slot with
  | waiting b => exact exists_step goesOn found
  | ended x => exact absurd rfl waits

/-! ## Turns in rounds -/

/-- Whether pairs are the indexes of the branches that wait, each with the turns that its branch
still gives away, and no branch asks for the end of the process. -/
structure Waits (s : State α) (waiting : List (Nat × Nat)) : Prop where
  nodup : (waiting.map Prod.fst).Nodup
  mem_iff : ∀ i n, (i, n) ∈ waiting ↔ ∃ x future, s.slots[i]? = some (.waiting ⟨n, x, future⟩)
  harmless : ∀ slot ∈ s.slots, slot.last.stopsAll = false

namespace Waits

/-- Where the branches are listed does not matter. -/
lemma perm (h : Waits s waiting) (same : waiting.Perm rest) : Waits s rest :=
  ⟨(same.map _).nodup_iff.mp h.nodup, fun i n => by rw [← same.mem_iff, h.mem_iff], h.harmless⟩

/-- When no branch asks for the end of the process, it goes on. -/
lemma goesOn (h : Waits s waiting) : s.goesOn := by
  have none : ∀ slot ∈ s.slots, ¬ slot.stopsAll = true := by
    intro slot mem stops
    cases slot with
    | waiting => cases stops
    | ended b => cases stops.symm.trans (h.harmless _ mem)
  rw [State.goesOn, Bool.not_eq_true', List.any_eq_false]
  exact none

/-- A turn makes no branch ask for the end of the process. -/
lemma harmless_set (h : Waits ⟨slots, order⟩ waiting) (found : slots[i]? = some slot)
    (same : new.last = slot.last) : ∀ other ∈ slots.set i new, other.last.stopsAll = false := by
  intro other mem
  rcases List.mem_or_eq_of_mem_set mem with mem | rfl
  · exact h.harmless other mem
  · rw [same]
    exact h.harmless slot (List.mem_of_getElem? found)

/-- The first branch that waits takes its turn. -/
lemma step (h : Waits s ((i, n) :: rest)) :
    ∃ t, Step s t ∧ t.order = s.order ++ (if n = 0 then [i] else []) ∧
      Waits t (if n = 0 then rest else (i, n - 1) :: rest) := by
  obtain ⟨slots, order⟩ := s
  obtain ⟨x, future, found⟩ := (h.mem_iff i n).mp List.mem_cons_self
  obtain ⟨fresh, nodup⟩ := List.nodup_cons.mp h.nodup
  have others : ∀ j m, j ≠ i →
      ((j, m) ∈ rest ↔ ∃ x future, slots[j]? = some (.waiting ⟨m, x, future⟩)) := by
    intro j m other
    rw [← h.mem_iff, List.mem_cons, or_iff_right (fun eq => other (Prod.mk.inj eq).1)]
  have gone : ∀ m, (i, m) ∉ rest := fun m mem => fresh (List.mem_map.mpr ⟨_, mem, rfl⟩)
  cases n with
  | zero =>
    refine ⟨_, .finish h.goesOn found, rfl, nodup, fun j m => ?_, h.harmless_set found rfl⟩
    rw [getElem?_set_of found]
    by_cases same : i = j
    · subst same
      simp [gone m]
    · simpa [same] using others j m (Ne.symm same)
  | succ n =>
    refine ⟨_, .turn h.goesOn found, (List.append_nil _).symm, List.nodup_cons.mpr ⟨fresh, nodup⟩,
      fun j m => ?_, h.harmless_set found rfl⟩
    rw [getElem?_set_of found]
    by_cases same : i = j
    · subst same
      simp [gone m, eq_comm]
    · simpa [same, Ne.symm same] using others j m (Ne.symm same)

/-- Every branch that waits takes its turn, one after another. -/
lemma round (h : Waits s (waiting ++ rest)) :
    ∃ t, Steps s t ∧ t.order = s.order ++ (Gather.round waiting).1 ∧
      Waits t ((Gather.round waiting).2 ++ rest) := by
  induction waiting generalizing s rest with
  | nil => exact ⟨s, .refl, (List.append_nil _).symm, h⟩
  | cons first waiting ih =>
    obtain ⟨i, n⟩ := first
    obtain ⟨t, step, order, waits⟩ := h.step
    by_cases last : n = 0
    · rw [if_pos last] at order waits
      obtain ⟨u, steps, order', waits'⟩ := ih waits
      refine ⟨u, .head step steps, ?_, ?_⟩
      · simp [order', order, Gather.round, last]
      · simpa [Gather.round, last] using waits'
    · rw [if_neg last] at order waits
      -- the branch waits for the next round behind those of this one
      obtain ⟨u, steps, order', waits'⟩ := ih (waits.perm List.perm_middle.symm)
      refine ⟨u, .head step steps, ?_, ?_⟩
      · simp [order', order, Gather.round, last]
      · simpa [Gather.round, last] using waits'.perm List.perm_middle

/-- Rounds are taken until no branch waits any more. -/
lemma rounds (h : Waits s waiting) (enough : ∀ w ∈ waiting, w.2 < fuel) :
    ∃ t, Steps s t ∧ t.order = s.order ++ Gather.rounds fuel waiting ∧ Waits t [] := by
  induction fuel generalizing s waiting with
  | zero =>
    cases waiting with
    | nil => exact ⟨s, .refl, (List.append_nil _).symm, h⟩
    | cons w rest => exact absurd (enough w List.mem_cons_self) (Nat.not_lt_zero _)
  | succ fuel ih =>
    obtain ⟨t, steps, order, waits⟩ := round ((List.append_nil waiting).symm ▸ h)
    rw [List.append_nil] at waits
    have fewer : ∀ w ∈ (Gather.round waiting).2, w.2 < fuel := by
      intro w mem
      obtain ⟨w, given, rfl⟩ := List.mem_map.mp mem
      obtain ⟨mem, some⟩ := List.mem_filter.mp given
      have := enough w mem
      have : w.2 ≠ 0 := by simpa using some
      dsimp only
      omega
    obtain ⟨u, more, order', waits'⟩ := ih waits fewer
    exact ⟨u, steps.trans more, by rw [order', order, List.append_assoc]; rfl, waits'⟩

/-- All branches wait when they are first awaited. -/
lemma start (harmless : ∀ b ∈ branches, b.stopsAll = false) : Waits (.start branches)
    ((List.range branches.length).zip (branches.map (·.turns))) := by
  refine ⟨?_, fun i n => ?_, ?_⟩
  · rw [List.map_fst_zip (by simp)]
    exact List.nodup_range
  · rw [List.mem_iff_getElem?]
    simp only [State.start, List.getElem?_map, List.getElem?_zip_eq_some, Option.map_eq_some_iff]
    constructor
    · rintro ⟨k, index, b, found, rfl⟩
      obtain ⟨within, same⟩ := List.getElem?_eq_some_iff.mp index
      rw [List.getElem_range] at same
      exact ⟨b.outcome, b.future, b, same ▸ found, rfl⟩
    · rintro ⟨x, future, b, found, eq⟩
      cases eq
      exact ⟨i, List.getElem?_range (List.getElem?_eq_some_iff.mp found).1, _, found, rfl⟩
  · rintro slot mem
    obtain ⟨b, given, rfl⟩ := List.mem_map.mp mem
    exact harmless b given

/-- When no branch waits, all have ended. -/
lemma all_ended (h : Waits s []) : s.slots.all Slot.isEnded = true := by
  refine List.all_eq_true.mpr fun slot mem => ?_
  obtain ⟨i, found⟩ := List.mem_iff_getElem?.mp mem
  cases slot with
  | waiting b =>
    exact absurd ((h.mem_iff i b.turns).mpr ⟨b.outcome, b.future, found⟩) List.not_mem_nil
  | ended x => rfl

end Waits

/-- The greatest number of a list and a first one is at least each of them. -/
lemma le_foldl_max (n : Nat) (ns : List Nat) :
    n ≤ ns.foldl max n ∧ ∀ m ∈ ns, m ≤ ns.foldl max n := by
  induction ns generalizing n with
  | nil => exact ⟨Nat.le_refl n, nofun⟩
  | cons k ns ih =>
    obtain ⟨first, others⟩ := ih (max n k)
    rw [List.foldl_cons, List.forall_mem_cons]
    exact ⟨Nat.le_trans (Nat.le_max_left n k) first, Nat.le_trans (Nat.le_max_right n k) first,
      others⟩

/-- The order of endings is that of a run in which all branches take their turns in rounds. -/
lemma exists_steps_endings (harmless : ∀ b ∈ branches, b.stopsAll = false) :
    ∃ t, Steps (.start branches) t ∧ t.order = endings branches ∧ t.goesOn ∧
      t.slots.all Slot.isEnded = true := by
  have enough : ∀ w ∈ (List.range branches.length).zip (branches.map (·.turns)),
      w.2 < (branches.map (·.turns)).foldl max 0 + 1 := fun w mem =>
    Nat.lt_succ_of_le ((le_foldl_max 0 _).2 _ (List.of_mem_zip mem).2)
  obtain ⟨t, steps, order, waits⟩ := (Waits.start harmless).rounds enough
  exact ⟨t, steps, order, waits.goesOn, waits.all_ended⟩

/-! ## What is gathered -/

/-- How the failure of a coroutine or of a future is seen by those who await it: one of the fleet is
seen as it is, and so is every interruption, except that a coroutine that was cancelled does not say
why; any other failure is seen as one of a lower layer. -/
inductive Raised : Bool → Failure → Failure → Prop where
  | fleet {future} {e : Failure} : e.isFleet = true → Raised future e e
  | foreign {future} {e : Failure} : e.isFleet = false → e.isOrdinary = true →
    Raised future e (.repository e false none)
  | silent {text : Text} : Raised false (.cancelled (.cancellation text)) (.cancelled "")
  | told {text : Text} :
    Raised true (.cancelled (.cancellation text)) (.cancelled (.cancellation text))
  | exit {future} {kind text : Text} :
    Raised future (.cancelled (.exit kind text)) (.cancelled (.exit kind text))
  | signal {future} {kind text : Text} :
    Raised future (.cancelled (.signal kind text)) (.cancelled (.signal kind text))

/-- Failures are reported as they are seen. -/
lemma raised_iff {future : Bool} : Raised future e e' ↔ reported future e = e' := by
  constructor
  · intro h
    cases h with
    | silent | told | exit | signal => rfl
    | fleet fleet =>
      have passed : e.wrap = e := if_pos (by rw [fleet, Bool.true_or])
      cases e <;> first | exact passed | exact absurd fleet Bool.false_ne_true
    | foreign foreign ordinary =>
      have wrapped : e.wrap = .repository e false none := if_neg (by simp [foreign, ordinary])
      cases e <;> first | exact wrapped | exact absurd ordinary Bool.false_ne_true
  · rintro rfl
    cases e with
    | cancelled cause =>
      cases cause with
      | cancellation text =>
        cases future with
        | false => exact .silent
        | true => exact .told
      | exit => exact .exit
      | signal => exact .signal
    | _ => first | exact .fleet rfl | exact .foreign rfl rfl

/-- A branch is seen to give a value exactly when it gives it. -/
lemma seen_eq_ok {b : Branch α} {value : α} : b.seen = .ok value ↔ b.outcome = .ok value := by
  obtain ⟨_, _ | _, _⟩ := b <;> simp [Branch.seen, Except.mapError]

/-- What a branch is seen to fail with is what its failure is seen as. -/
lemma seen_eq_error {b : Branch α} :
    b.seen = .error e ↔ ∃ e', b.outcome = .error e' ∧ Raised b.future e' e := by
  obtain ⟨_, _ | _, _⟩ := b <;> simp [Branch.seen, Except.mapError, raised_iff]

/-- The values of branches are gathered one by one, up to the first that fails. -/
lemma run_eq (branches : List (Branch α)) : run branches = branches.mapM Branch.seen := by
  unfold run
  induction branches with
  | nil => rfl
  | cons b rest ih =>
    rw [List.map_cons, List.mapM_cons]
    cases b.seen with
    | error e => rfl
    | ok a =>
      rw [collect, ih]
      show _ = (rest.mapM Branch.seen).map (a :: ·)
      cases rest.mapM Branch.seen <;> rfl

/-- All branches together give values exactly when each of them gives its own. -/
lemma run_eq_ok {values : List α} :
    run branches = .ok values ↔ branches.map (·.outcome) = values.map .ok := by
  rw [run_eq, mapM_eq_ok]
  induction branches generalizing values with
  | nil => rfl
  | cons b rest ih =>
    cases values with
    | nil => exact ⟨nofun, nofun⟩
    | cons value values => simp only [List.map_cons, List.cons.injEq, seen_eq_ok, ih]

/-- All branches together fail as the first of them that fails is seen to fail. -/
lemma run_eq_error : run branches = .error e ↔
    ∃ before b after e', branches = before ++ b :: after ∧
      (∀ a ∈ before, ∃ value, a.outcome = .ok value) ∧ b.outcome = .error e' ∧
      Raised b.future e' e := by
  rw [run_eq, mapM_eq_error]
  simp only [seen_eq_ok, seen_eq_error]
  constructor
  · rintro ⟨before, b, after, eq, fine, e', failed, raised⟩
    exact ⟨before, b, after, e', eq, fine, failed, raised⟩
  · rintro ⟨before, b, after, e', eq, fine, failed, raised⟩
    exact ⟨before, b, after, eq, fine, e', failed, raised⟩

/-- Two outcomes are gathered as those of two coroutines are. -/
lemma run_pair (a : Except Failure α) (b : Except Failure β) (n m : Nat) :
    run [⟨n, a.map .inl, false⟩, ⟨m, b.map .inr, false⟩] =
      (pair a b).map fun p => [Sum.inl p.1, Sum.inr p.2] := by
  cases a <;> cases b <;> rfl

end Gather

end ProxyFleet
