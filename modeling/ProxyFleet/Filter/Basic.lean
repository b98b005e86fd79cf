import ProxyFleet.Label.Basic
import ProxyFleet.Value

/-!
# Filters

A filter holds equality conditions, an optional sort field and a page of the result. Page number
and page size are at least one: anything given that is blank or smaller falls back to page 1 of 100
items. They may be given as whole numbers, as the truth value true, or as doubles, which no page
can be cut by.
-/

namespace ProxyFleet

inductive Direction where
  | ascending
  | descending
  deriving DecidableEq, Repr

namespace Direction

def name : Direction → Text
  | ascending => "asc"
  | descending => "desc"

def ofJson? : Json → Option Direction
  | .str s => [ascending, descending].find? fun d => d.name == s
  | _ => none

/-- The direction that a JSON value names, or the failure of one that names none. -/
def ofJson (j : Json) : Except Failure Direction :=
  match ofJson? j with
  | some d => .ok d
  | none => .error (.value (j.shown ++ " is not a valid SortDirection"))

end Direction

/-- A page number or a page size as it was given. -/
inductive Extent where
  | whole (n : Nat)
  | yes
  | real (x : Binary64)
  deriving DecidableEq, Repr

namespace Extent

/-- What is given, or the fallback when it is blank or less than one. -/
def ofJson (fallback : Nat) (j : Json) : Except Failure Extent :=
  if j.isBlank then .ok (whole fallback)
  else
    match j with
    | .bool _ => .ok yes
    | .int n => .ok (whole (if n < 1 then fallback else n.toNat))
    | .float x =>
      .ok (if Binary64.Extended.less x.extended (.exact 1) then whole fallback else real x)
    | _ => .error .wrongType

def count? : Extent → Option Nat
  | whole n => some n
  | yes => some 1
  | real _ => none

def toJson : Extent → Json
  | whole n => .int n
  | yes => .bool true
  | real x => .float x

end Extent

/-- What an attribute is compared with: a JSON value or a label. -/
inductive Operand where
  | json (j : Json)
  | label (l : Label)

def Entry.toValue (e : Entry) : Value :=
  .record "label entry"
    [("namespace", .ofJson e.tag), ("fields", .object (Value.ofMembers e.fields))]

def Label.toValue : Label → Value
  | absent => .null
  | one entry => entry.toValue
  | many entries => .list (entries.map fun e => e.elim .null Entry.toValue)

def Operand.toValue : Operand → Value
  | json j => .ofJson j
  | label l => l.toValue

/-- The label that an operand stands for; what is no label counts as a list of one missing entry. -/
def Operand.asLabel : Operand → Label
  | label l => l
  | json .null => .absent
  | json _ => .many [none]

/-- The JSON value of an operand; a label counts as none. -/
def Operand.asJson : Operand → Json
  | json j => j
  | label _ => .null

/-- An equality condition on one attribute. -/
structure Condition where
  field : Text
  operand : Operand

/-- A filter; the result is not cut into pages when `unpaged` is anything but blank. -/
structure Filter where
  page : Extent
  limit : Extent
  unpaged : Json
  conditions : List Condition
  sort : Option (Text × Direction)

namespace Filter

/-- The first page of 100 items, in the order in which they come. -/
def default : Filter := ⟨.whole 1, .whole 100, .bool false, [], none⟩

def everything : Filter := { default with unpaged := .bool true }

/-- A filter without conditions. -/
def ofPage (page limit unpaged : Json) : Except Failure Filter := do
  let page ← Extent.ofJson 1 page
  let limit ← Extent.ofJson 100 limit
  return { default with page, limit, unpaged }

def require (f : Filter) (field : Text) (operand : Operand) : Filter :=
  { f with conditions := f.conditions ++ [⟨field, operand⟩] }

def requireJson (f : Filter) (field : Text) (j : Json) : Filter := f.require field (.json j)

def sortBy (f : Filter) (field : Text) (direction : Json) : Except Failure Filter :=
  (Direction.ofJson direction).map fun d => { f with sort := some (field, d) }

/-- The condition on a field, if there is exactly one. -/
def condition? (f : Filter) (field : Text) : Option Condition :=
  match f.conditions.filter fun c => c.field == field with
  | [c] => some c
  | _ => none

end Filter

end ProxyFleet
