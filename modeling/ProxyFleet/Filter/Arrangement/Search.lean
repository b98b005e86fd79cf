/-!
# Searching an arranged list

How many elements at the start of an arranged list satisfy a condition. The condition is asked of
as few elements as possible: either by halving, or by steps of growing width from a hint followed by
halving. It may fail, and then so does the search.
-/

namespace ProxyFleet.Arrangement

variable {α : Type}

/-- Whether the element at an index satisfies the condition; there is none past the end. -/
def holdsAt (before : α → Option Bool) (xs : List α) (i : Nat) : Option Bool :=
  match xs[i]? with
  | some x => before x
  | none => some false

/-- The end of the elements that satisfy the condition, between `low` and `high`, by halving. -/
def halve (before : α → Option Bool) (xs : List α) (low high : Nat) : Option Nat :=
  if low < high then do
    let middle := low + (high - low) / 2
    if ← holdsAt before xs middle then halve before xs (middle + 1) high
    else halve before xs low middle
  else some low
termination_by high - low

/-- The last of the widths 1, 3, 7, 15, … that goes on, with the first one that does not; the
latter is at most `limit`. -/
def widen (goesOn : Nat → Option Bool) (limit last width : Nat) : Option (Nat × Nat) :=
  if width < limit then do
    if ← goesOn width then widen goesOn limit width (2 * width + 1)
    else some (last, width)
  else some (last, limit)
termination_by limit - width

/-- The end of the elements that satisfy the condition, looked for around a hint first. -/
def gallop (before : α → Option Bool) (xs : List α) (hint : Nat) : Option Nat := do
  if ← holdsAt before xs hint then
    let (last, width) ← widen (fun n => holdsAt before xs (hint + n)) (xs.length - hint) 0 1
    halve before xs (hint + last + 1) (hint + width)
  else
    let (last, width) ←
      widen (fun n => (holdsAt before xs (hint - n)).map not) (hint + 1) 0 1
    halve before xs (hint + 1 - width) (hint - last)

end ProxyFleet.Arrangement
