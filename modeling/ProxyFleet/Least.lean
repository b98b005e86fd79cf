/-!
# The least free number

Names, ports and addresses are all given out by the same rule: the least number from a start on
that nobody holds. Among one more candidate than there are holders, one is always free.
-/

namespace ProxyFleet

/-- The first of at most `count` numbers from `start` on that does not satisfy `taken`. -/
def firstFree? (taken : Nat → Bool) (start count : Nat) : Option Nat :=
  ((List.range count).map (start + ·)).find? fun n => !taken n

/-- The least whole number from `start` on that is not among `used`. -/
def leastFree (used : List Int) (start : Int) : Int :=
  let candidates := (List.range (used.length + 1)).map fun (i : Nat) => start + (i : Int)
  (candidates.find? fun n => !used.contains n).getD start

end ProxyFleet
