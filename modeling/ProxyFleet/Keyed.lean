/-!
# Keyed lists

Lists of key-value pairs in the order in which their keys first appeared. A key that is written
again keeps its place and takes the new value.
-/

namespace ProxyFleet.Keyed

variable {κ α : Type} [DecidableEq κ]

def get? (key : κ) : List (κ × α) → Option α
  | [] => none
  | (k, v) :: rest => if k = key then some v else get? key rest

def has (key : κ) (pairs : List (κ × α)) : Bool := (get? key pairs).isSome

/-- Writes a key. -/
def put (key : κ) (value : α) : List (κ × α) → List (κ × α)
  | [] => [(key, value)]
  | (k, v) :: rest => if k = key then (k, value) :: rest else (k, v) :: put key value rest

/-- Writes a key that is not there yet and leaves one that is there alone. -/
def putNew (key : κ) (value : α) (pairs : List (κ × α)) : List (κ × α) :=
  if has key pairs then pairs else pairs ++ [(key, value)]

/-- Writes pairs one after another. -/
def putAll (pairs new : List (κ × α)) : List (κ × α) :=
  new.foldl (fun acc p => put p.1 p.2 acc) pairs

/-- The keyed list that writing pairs one after another gives. -/
def ofList (pairs : List (κ × α)) : List (κ × α) := putAll [] pairs

def keys (pairs : List (κ × α)) : List κ := pairs.map Prod.fst

theorem get?_put (key k : κ) (value : α) (pairs : List (κ × α)) :
    get? k (put key value pairs) = if key = k then some value else get? k pairs := by
  induction pairs with
  | nil => simp [put, get?]
  | cons p rest ih =>
    obtain ⟨k', v⟩ := p
    by_cases h : k' = key
    · subst h
      by_cases hk : k' = k <;> simp [put, get?, hk]
    · by_cases hk : k' = k
      · subst hk
        simp [put, get?, h, Ne.symm h]
      · simp [put, get?, h, hk, ih]

end ProxyFleet.Keyed
