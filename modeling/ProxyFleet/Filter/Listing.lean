import ProxyFleet.Filter.Arrangement
import ProxyFleet.Filter.Basic

/-!
# Listings

Applying a filter to a list of items: first the conditions, then the sort, then the page. The
total counts the items that satisfy the conditions, on whatever page they are.
-/

namespace ProxyFleet

/-- A page of items and the number of items on all pages. -/
structure Listing (α : Type) where
  items : List α
  total : Nat

namespace Listing

variable {α : Type}

def empty : Listing α := ⟨[], 0⟩

/-- The conditions that are evaluated: all of them, or those on the given fields. -/
def evaluated (fields : Option (List Text)) (conditions : List Condition) : List Condition :=
  conditions.filter fun c => fields.elim true fun names => names.contains c.field

/-- Whether an item satisfies a condition. -/
def satisfies (attr : α → Text → Value) (c : Condition) (x : α) : Bool :=
  (attr x c.field).same c.operand.toValue

def select (attr : α → Text → Value) (conditions : List Condition) (xs : List α) : List α :=
  xs.filter fun x => conditions.all fun c => satisfies attr c x

/-- Whether a sort key comes before another, a missing one after all others; nothing when they are
of different kinds and hence without an order. -/
def keyLess? (a b : Value) : Option Bool :=
  match a, b with
  | .null, _ => some false
  | _, .null => some true
  | a, b => if a.same b then some false else a.less? b

/-- Whether sort keys have an order: missing ones apart, all of them are numbers or all of them are
texts. -/
def haveOrder (keys : List Value) : Bool :=
  let given := keys.filter fun k => !k.isNull
  given.all Value.isNumber || given.all Value.isText

/-- Whether a sort key may stand before another in the given direction. -/
def mayPrecede (direction : Direction) (a b : Value) : Bool :=
  match direction with
  | .ascending => keyLess? b a != some true
  | .descending => keyLess? a b != some true

/-- The items arranged in the given direction by whatever comparing their keys answers. -/
def arranged (less? : α → α → Option Bool) (direction : Direction) (xs : List α) :
    Option (List α) :=
  match direction with
  | .ascending => Arrangement.arrange less? xs
  | .descending => (Arrangement.arrange less? xs.reverse).map List.reverse

/-- The items in the order of an attribute, those with equal keys in the order in which they came.
Where the keys are of other kinds the outcome is that of the comparisons that arranging makes, and
fails with the first one that is not defined. -/
def sorted (attr : α → Text → Value) (field : Text) (direction : Direction)
    (xs : List α) : Except Failure (List α) :=
  if haveOrder (xs.map (attr · field)) then
    .ok (xs.mergeSort fun x y => mayPrecede direction (attr x field) (attr y field))
  else
    match arranged (fun x y => keyLess? (attr x field) (attr y field)) direction xs with
    | some ys => .ok ys
    | none => .error .wrongType

/-- Whether the start of a page overflows because a whole number meets a double. -/
def startOverflows : Extent → Extent → Bool
  | .real _, .whole n => Binary64.overflows n
  | .whole n, .real _ => Binary64.overflows ((n : Int) - 1)
  | _, _ => false

def cut (page limit : Extent) (xs : List α) : Except Failure (List α) :=
  match page.count?, limit.count? with
  | some page, some limit => .ok ((xs.drop ((page - 1) * limit)).take limit)
  | _, _ => .error (if startOverflows page limit then .overflow else .wrongType)

/-- The listing of a filter, conditions on other than the given fields being passed over. -/
def ofFilter (attr : α → Text → Value) (fields : Option (List Text)) (f : Filter)
    (xs : List α) : Except Failure (Listing α) := do
  let chosen := select attr (evaluated fields f.conditions) xs
  let ordered ← match f.sort with
    | none => pure chosen
    | some (field, direction) => sorted attr field direction chosen
  if !f.unpaged.isBlank then return ⟨ordered, ordered.length⟩
  let page ← cut f.page f.limit ordered
  return ⟨page, ordered.length⟩

end Listing

end ProxyFleet
