import ProxyFleet.Filter.Arrangement.Search

/-!
# Merging arranged runs

Two neighbouring runs become one, elements that are not apart keeping their order. The merge goes
from the side of the shorter run, element by element, until one of the runs has won as often in a
row as the pace asks for; from then on it gallops, moving as many elements at once as a search
finds. Galloping makes the pace lower, and leaving it makes the pace higher.

A merge from the right works on the runs turned round, so both directions are one function.
-/

namespace ProxyFleet.Arrangement

variable {α : Type}

/-- How a merge goes on: element by element, the left and the right run having won as often in a
row as told, or galloping, for a further time if `again` holds. -/
inductive Gait where
  | stepping (left right : Nat)
  | galloping (again : Bool)

/-- As many elements as galloping has to move at once in order to go on. -/
def worthwhile : Nat := 7

/-- How many elements at the start of a run, seen in the direction of the merge, satisfy the
condition; from the right, how many of them do not. -/
def leading (fromRight : Bool) (before : α → Option Bool) (xs : List α) : Option Nat :=
  if fromRight then (gallop before xs.reverse (xs.length - 1)).map (xs.length - ·)
  else gallop before xs 0

/-- What is left of two runs, if it need not be compared any more: one run is used up, or the run
that the merge started from has one element left, which is known to come last. -/
def settled? : Bool → List α → List α → Option (List α)
  | _, [], ys => some ys
  | _, xs, [] => some xs
  | false, [x], ys => some (ys ++ [x])
  | true, xs, [y] => some (xs ++ [y])
  | _, _, _ => none

/-- What is left of two runs when that is settled, and otherwise the outcome of going on. -/
def unlessSettled (fromRight : Bool) (pace : Nat) (xs ys : List α)
    (goOn : Option (List α × Nat)) : Option (List α × Nat) :=
  match settled? fromRight xs ys with
  | some rest => some (rest, pace)
  | none => goOn

/-- Elements in front of the outcome of a merge. -/
def behind (moved : List α) (outcome : Option (List α × Nat)) : Option (List α × Nat) :=
  outcome.map fun (rest, pace) => (moved ++ rest, pace)

/-- Merges a left run `xs` and a right run `ys`, both seen in the direction of the merge, and
returns the pace for the next merge. Every step moves an element, so their number is bounded by
`fuel`. -/
def mergeFrom (less? : α → α → Option Bool) (fromRight : Bool) :
    Nat → Gait → Nat → List α → List α → Option (List α × Nat)
  | 0, _, pace, xs, ys => some (xs ++ ys, pace)
  | fuel + 1, gait, pace, xs, ys =>
    unlessSettled fromRight pace xs ys <|
      match gait, xs, ys with
      | .stepping left right, x :: xs, y :: ys => do
        if (← less? y x) != fromRight then
          let gait := if pace ≤ right + 1 then .galloping false else .stepping 0 (right + 1)
          behind [y] (mergeFrom less? fromRight fuel gait pace (x :: xs) ys)
        else
          let gait := if pace ≤ left + 1 then .galloping false else .stepping (left + 1) 0
          behind [x] (mergeFrom less? fromRight fuel gait pace xs (y :: ys))
      | .galloping again, xs, y :: ys => do
        let pace := if again && 1 < pace then pace - 1 else pace
        let n ← leading fromRight (fun x => (less? y x).map not) xs
        behind (xs.take n) <| unlessSettled fromRight pace (xs.drop n) (y :: ys) <|
          behind [y] <| unlessSettled fromRight pace (xs.drop n) ys <|
            match xs.drop n with
            | [] => some (ys, pace)
            | x :: xs => do
              let m ← leading fromRight (fun y => less? y x) ys
              behind (ys.take m) <| unlessSettled fromRight pace (x :: xs) (ys.drop m) <|
                behind [x] <| unlessSettled fromRight pace xs (ys.drop m) <|
                  if worthwhile ≤ n ∨ worthwhile ≤ m then
                    mergeFrom less? fromRight fuel (.galloping true) pace xs (ys.drop m)
                  else
                    mergeFrom less? fromRight fuel (.stepping 0 0) (pace + 1) xs (ys.drop m)
      | _, xs, ys => some (xs ++ ys, pace)

/-- Merges from the left, where the first element is known to be that of the right run. -/
def mergeLeft (less? : α → α → Option Bool) (pace : Nat) (xs ys : List α) :
    Option (List α × Nat) :=
  behind (ys.take 1) <|
    mergeFrom less? false (xs.length + ys.length) (.stepping 0 0) pace xs (ys.drop 1)

/-- Merges from the right, where the last element is known to be that of the left run. -/
def mergeRight (less? : α → α → Option Bool) (pace : Nat) (xs ys : List α) :
    Option (List α × Nat) :=
  let (xs, ys) := (xs.reverse, ys.reverse)
  (behind (xs.take 1) <|
    mergeFrom less? true (xs.length + ys.length) (.stepping 0 0) pace (xs.drop 1) ys).map
      fun (merged, pace) => (merged.reverse, pace)

/-- Merges two neighbouring runs. The elements of the left run that come before the right one stay
where they are, and so do those of the right run that come after the left one. -/
def merge (less? : α → α → Option Bool) (pace : Nat) (xs ys : List α) :
    Option (List α × Nat) :=
  match ys.head? with
  | none => some (xs, pace)
  | some y => do
    let start ← gallop (fun x => (less? y x).map not) xs 0
    match xs.getLast? with
    | none => some (ys, pace)
    | some x =>
      if xs.length ≤ start then return (xs ++ ys, pace)
      let stop ← gallop (fun y => less? y x) ys (ys.length - 1)
      let (kept, xs) := (xs.take start, xs.drop start)
      let (ys, tail) := (ys.take stop, ys.drop stop)
      if ys.isEmpty then return (kept ++ xs ++ tail, pace)
      let (merged, pace) ← if xs.length ≤ ys.length then mergeLeft less? pace xs ys
        else mergeRight less? pace xs ys
      return (kept ++ merged ++ tail, pace)

end ProxyFleet.Arrangement
