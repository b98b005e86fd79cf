import ProxyFleet.Calendar.Moment
import ProxyFleet.Json

/-!
# Values

What an attribute of a listed item may hold: JSON values, points in time, records with named
fields, and the operations of the item itself. Values are compared across kinds: truth values count
as the numbers 0 and 1, whole numbers and doubles compare by their exact value, and two values that
are neither equal nor of comparable kinds have no order. What is no number equals nothing, but
lists and records that hold it in the same place may be equal.
-/

namespace ProxyFleet

inductive Value where
  | null
  | bool (b : Bool)
  | int (n : Int)
  | float (x : Binary64)
  | str (s : Text)
  | list (elements : List Value)
  | object (members : List (Text × Value))
  | record (kind : Text) (fields : List (Text × Value))
  | moment (m : Moment)
  | operation

namespace Value

instance : Inhabited Value := ⟨null⟩

mutual

def ofJson : Json → Value
  | .null => null
  | .bool b => bool b
  | .int n => int n
  | .float x => float x
  | .str s => str s
  | .arr xs => list (ofElements xs)
  | .obj ms => object (ofMembers ms)

def ofElements : List Json → List Value
  | [] => []
  | x :: rest => ofJson x :: ofElements rest

def ofMembers : List (Text × Json) → List (Text × Value)
  | [] => []
  | (k, x) :: rest => (k, ofJson x) :: ofMembers rest

end

/-- The number that a value is, truth values included. -/
def number? : Value → Option Binary64.Extended
  | bool b => some (.exact (if b then 1 else 0))
  | int n => some (.exact n)
  | float x => some x.extended
  | _ => none

def isNull : Value → Bool
  | null => true
  | _ => false

def isText : Value → Bool
  | str _ => true
  | _ => false

/-- Whether a value is a number, an infinite one perhaps, but not the double that is none. -/
def isNumber (v : Value) : Bool :=
  match v.number? with
  | some .nan | none => false
  | some _ => true

/-- Whether two values are both the double that is no number. -/
def bothNan : Value → Value → Bool
  | float .nan, float .nan => true
  | _, _ => false

mutual

def same : Value → Value → Bool
  | null, w => match w with
    | null => true
    | _ => false
  | bool b, w => match w.number? with
    | some y => Binary64.Extended.same (.exact (if b then 1 else 0)) y
    | none => false
  | int n, w => match w.number? with
    | some y => Binary64.Extended.same (.exact n) y
    | none => false
  | float x, w => match w.number? with
    | some y => Binary64.Extended.same x.extended y
    | none => false
  | str s, w => match w with
    | str t => s == t
    | _ => false
  | list xs, w => match w with
    | list ys => sameElements xs ys
    | _ => false
  | object ms, w => match w with
    | object ns => ms.length == ns.length && sameMembers ms ns
    | _ => false
  | record kind fields, w => match w with
    | record kind' fields' =>
      kind == kind' && fields.length == fields'.length && sameMembers fields fields'
    | _ => false
  | moment m, w => match w with
    | moment m' => m.compare? m' == some .eq
    | _ => false
  | operation, _ => false

/-- Equality of lists, element by element. -/
def sameElements : List Value → List Value → Bool
  | [], ys => ys.isEmpty
  | x :: xs, ys => match ys with
    | [] => false
    | y :: ys => (bothNan x y || same x y) && sameElements xs ys

/-- Whether every member is found, with an equal value, among the members of the other. -/
def sameMembers : List (Text × Value) → List (Text × Value) → Bool
  | [], _ => true
  | (k, x) :: rest, ns => match Keyed.get? k ns with
    | some y => (bothNan x y || same x y) && sameMembers rest ns
    | none => false

end

mutual

/-- Whether the first of two values comes before the second, if their kinds can be compared. -/
def less? : Value → Value → Option Bool
  | bool b, w => w.number?.map fun y => Binary64.Extended.less (.exact (if b then 1 else 0)) y
  | int n, w => w.number?.map fun y => Binary64.Extended.less (.exact n) y
  | float x, w => w.number?.map fun y => Binary64.Extended.less x.extended y
  | str s, w => match w with
    | str t => some (Text.less s t)
    | _ => none
  | list xs, w => match w with
    | list ys => lessElements? xs ys
    | _ => none
  | moment m, w => match w with
    | moment m' => (m.compare? m').map (· == .lt)
    | _ => none
  | _, _ => none

/-- The order of lists: that of the first elements that differ, a shorter list coming first. -/
def lessElements? : List Value → List Value → Option Bool
  | [], ys => some (!ys.isEmpty)
  | x :: xs, ys => match ys with
    | [] => some false
    | y :: ys => if bothNan x y || same x y then lessElements? xs ys else less? x y

end

end Value

end ProxyFleet
