import ProxyFleet.Filter.Arrangement.Merge

/-!
# Arranging by a partial comparison

Arranging a list by a comparison that need not be an order: it may fail, and its answers may
contradict each other, as they do for numbers that are none. The outcome therefore depends on
which elements are compared. The list is cut into runs that are arranged already, or are arranged
when they are turned round; a run that is too short takes in the elements after it, each at the
place that halving finds. Neighbouring runs are merged as soon as the balance of the merges asks
for it. Elements that are not apart keep their order.
-/

namespace ProxyFleet.Arrangement

variable {α : Type}

/-- Splits a list after its longest start in which, for every two neighbours, the second one is
less than the first exactly if `falling` holds. -/
def splitRun (less? : α → α → Option Bool) (falling : Bool) (x : α) :
    List α → Option (List α × List α)
  | [] => some ([x], [])
  | y :: rest => do
    if (← less? y x) = falling then
      let (start, rest) ← splitRun less? falling y rest
      return (x :: start, rest)
    else return ([x], y :: rest)

/-- The arranged run at the start of a list, and what follows it. -/
def firstRun (less? : α → α → Option Bool) : List α → Option (List α × List α)
  | [] => some ([], [])
  | [x] => some ([x], [])
  | x :: y :: rest => do
    let falling ← less? y x
    let (start, rest) ← splitRun less? falling x (y :: rest)
    return (if falling then start.reverse else start, rest)

/-- Inserts elements one after another into an arranged list, each behind the elements that it is
not less than. -/
def insertAll (less? : α → α → Option Bool) (ys : List α) : List α → Option (List α)
  | [] => some ys
  | x :: rest => do
    let i ← halve (fun y => (less? x y).map not) ys 0 ys.length
    insertAll less? (ys.insertIdx i x) rest

/-- The length that runs of a list of `n` elements are brought to: the first six binary digits of
`n`, one more if any of the others is a one. -/
def runLength (n : Nat) : Nat :=
  let shift := n.log2 - 5
  let start := n >>> shift
  if start <<< shift = n then start else start + 1

/-- The run at the start of a list, brought to a length if there are as many elements, and what
follows it. -/
def nextRun (less? : α → α → Option Bool) (length : Nat) (xs : List α) :
    Option (List α × List α) := do
  let (start, rest) ← firstRun less? xs
  let lacking := length - start.length
  let run ← insertAll less? start (rest.take lacking)
  return (run, rest.drop lacking)

/-- The runs that are not merged yet, the last one first. -/
structure Run (α : Type) where
  /-- How many elements stand before the run. -/
  start : Nat
  items : List α
  /-- How deep in a balanced tree of merges the run meets the next one. -/
  depth : Nat

/-- The first binary digit in which the fractions `a / n` and `b / n` differ, `fuel` bounding their
number. -/
def firstDifference (n : Nat) : Nat → Nat → Nat → Nat
  | 0, _, _ => 1
  | fuel + 1, a, b =>
    if n ≤ a then 1 + firstDifference n fuel (2 * (a - n)) (2 * (b - n))
    else if n ≤ b then 1
    else 1 + firstDifference n fuel (2 * a) (2 * b)

/-- The depth at which a run meets the next one, of `length` elements, in a list of `n`: the first
binary digit in which the middles of the two runs differ as fractions of the list. -/
def meetingDepth (n : Nat) (run : Run α) (length : Nat) : Nat :=
  let a := 2 * run.start + run.items.length
  firstDifference n n a (a + run.items.length + length)

/-- The state of an arrangement: the runs, the last one first, and the pace of merges. -/
structure Progress (α : Type) where
  runs : List (Run α)
  pace : Nat

/-- Merges two neighbouring runs into one. -/
def join (less? : α → α → Option Bool) (pace : Nat) (left right : Run α) :
    Option (Run α × Nat) := do
  let (items, pace) ← merge less? pace left.items right.items
  return ({ left with items }, pace)

/-- Merges the last run with the ones before it as long as those meet deeper than told. -/
def settle (less? : α → α → Option Bool) (depth : Nat) (last : Run α) :
    List (Run α) → Nat → Option (Progress α)
  | [], pace => some ⟨[{ last with depth }], pace⟩
  | run :: runs, pace => do
    if depth < run.depth then
      let (joined, pace) ← join less? pace run last
      settle less? depth joined runs pace
    else return ⟨{ last with depth } :: run :: runs, pace⟩

/-- Makes room for a further run of `length` elements in a list of `n`. -/
def makeRoom (less? : α → α → Option Bool) (n length : Nat) (p : Progress α) :
    Option (Progress α) :=
  match p.runs with
  | [] => some p
  | last :: runs => settle less? (meetingDepth n last length) last runs p.pace

/-- Cuts a list into runs, merging them on the way; `n` is the length of the whole list and `fuel`
bounds the number of runs. -/
def collect (less? : α → α → Option Bool) (n : Nat) :
    Nat → Progress α → List α → Option (Progress α)
  | 0, p, xs => some { p with runs := ⟨n - xs.length, xs, 0⟩ :: p.runs }
  | fuel + 1, p, xs =>
    if xs.isEmpty then some p
    else do
      let (run, rest) ← nextRun less? (runLength n) xs
      let p ← makeRoom less? n run.length p
      collect less? n fuel { p with runs := ⟨n - xs.length, run, 0⟩ :: p.runs } rest

/-- Merges all runs that are left, from the end of the list on; of three runs the first two are
merged before when the first is shorter than the last. `fuel` bounds the number of merges. -/
def mergeAll (less? : α → α → Option Bool) : Nat → List (Run α) → Nat → Option (List α)
  | 0, runs, _ => some (runs.reverse.flatMap Run.items)
  | fuel + 1, c :: b :: a :: runs, pace => do
    if a.items.length < c.items.length then
      let (ab, pace) ← join less? pace a b
      mergeAll less? fuel (c :: ab :: runs) pace
    else
      let (bc, pace) ← join less? pace b c
      mergeAll less? fuel (bc :: a :: runs) pace
  | _, [b, a], pace => do
    let (ab, _) ← join less? pace a b
    return ab.items
  | _, [a], _ => some a.items
  | _, [], _ => some []

/-- A list arranged by a comparison, unless one of the comparisons that are made fails. -/
def arrange (less? : α → α → Option Bool) (xs : List α) : Option (List α) := do
  let p ← collect less? xs.length (xs.length + 1) ⟨[], worthwhile⟩ xs
  mergeAll less? p.runs.length p.runs p.pace

end ProxyFleet.Arrangement
