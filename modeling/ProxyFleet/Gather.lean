import ProxyFleet.Failure

/-!
# Gathering branches

Several branches are awaited together. Every branch runs to its end, whatever happens to the
others; then the first failure in the order of the branches, not of time, is the failure of all.
Only a coroutine that asks for the end of the process stops the others, and nothing is reported
then.
-/

namespace ProxyFleet

/-- A branch: how often it lets the others go first, what it ends with, and whether it is a future
that others complete rather than a coroutine. -/
structure Branch (α : Type) where
  turns : Nat
  outcome : Except Failure α
  future : Bool := false

/-- The failure of a branch as those who await it see it. A coroutine that is cancelled does not say
why, a future does. -/
def Gather.reported (future : Bool) : Failure → Failure
  | .cancelled (.cancellation text) => .cancelled (.cancellation (if future then text else ""))
  | e => e.wrap

/-- What those who await a branch see of its outcome. -/
def Branch.seen {α : Type} (b : Branch α) : Except Failure α :=
  b.outcome.mapError (Gather.reported b.future)

namespace Gather

/-- The values of all outcomes, or the first failure. -/
def collect {α : Type} : List (Except Failure α) → Except Failure (List α)
  | [] => .ok []
  | .ok x :: rest => (collect rest).map (x :: ·)
  | .error e :: _ => .error e

/-- The values of two coroutines, or the first failure. -/
def pair {α β : Type} : Except Failure α → Except Failure β → Except Failure (α × β)
  | .error e, _ => .error (reported false e)
  | .ok _, .error e => .error (reported false e)
  | .ok a, .ok b => .ok (a, b)

/-- Lets every waiting branch have a turn: those that end in it, and the others with the turns that
they still give away. -/
def round (waiting : List (Nat × Nat)) : List Nat × List (Nat × Nat) :=
  ((waiting.filter fun w => w.2 = 0).map Prod.fst,
    (waiting.filter fun w => w.2 ≠ 0).map fun w => (w.1, w.2 - 1))

/-- The branches in the order in which they end within a number of rounds. -/
def rounds : Nat → List (Nat × Nat) → List Nat
  | 0, _ => []
  | n + 1, waiting =>
    let (ended, waiting) := round waiting
    ended ++ rounds n waiting

/-- The indexes of the branches in the order in which they end. -/
def endings {α : Type} (branches : List (Branch α)) : List Nat :=
  rounds ((branches.map (·.turns)).foldl max 0 + 1)
    ((List.range branches.length).zip (branches.map (·.turns)))

/-- What awaiting branches together gives. -/
def run {α : Type} (branches : List (Branch α)) : Except Failure (List α) :=
  collect (branches.map Branch.seen)

end Gather

end ProxyFleet
