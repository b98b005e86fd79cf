import ProxyFleet.Label.Basic

/-!
# Flat labels

Containers carry flat labels only, texts under texts. A field of an owner is written under the key
`<prefix>.<owner>.<field>` with hyphens for underscores; regrouping the labels of a container gives
the entries back, in the order in which their owners first appear.
-/

namespace ProxyFleet

/-- A key prefix without the points at its end. -/
def keyBase (keyPrefix : Text) : Text := Text.stripEnd '.' keyPrefix

def fieldKey (keyPrefix : Text) (owner : Owner) (name : Text) : Text :=
  keyBase keyPrefix ++ "." ++ owner.name ++ "." ++ Field.hyphenated name

/-- The text of a setting; a number may have too many digits to have one. -/
def Setting.write : Setting → Except Failure Text
  | number n => if Text.hasNumeral n then .ok (Text.numeral n) else .error .badNumeral
  | setting => .ok setting.toText

/-- The flat labels of a model, less the excluded fields, as far as its numbers can be written. -/
def Model.flat (keyPrefix : Text) (excluded : List Text) (m : Model) : List (Text × Text) :=
  (m.supplied.filter fun p => !excluded.contains p.1).map fun p =>
    (fieldKey keyPrefix m.owner p.1, p.2.toText)

/-- The flat labels of all models; what a later model writes replaces what an earlier one wrote. -/
def Model.flatAll (keyPrefix : Text) (excluded : List Text) (ms : List Model) :
    List (Text × Text) :=
  ms.foldl (fun acc m => Keyed.putAll acc (m.flat keyPrefix excluded)) []

/-- The flat labels of the first model of one kind of owner. -/
def Model.flatOf (keyPrefix : Text) (excluded : List Text) (ms : List Model) (owner : Owner) :
    Except Failure (List (Text × Text)) :=
  (Model.find ms owner).map (Model.flat keyPrefix excluded)

/-- Writes the flat labels of a model. One number that cannot be written spoils them all. -/
def Model.write (keyPrefix : Text) (excluded : List Text) (m : Model) :
    Except Failure (List (Text × Text)) :=
  (m.supplied.filter fun p => !excluded.contains p.1).mapM fun p =>
    p.2.write.map fun text => (fieldKey keyPrefix m.owner p.1, text)

/-- Writes the flat labels of all models. -/
def Model.writeAll (keyPrefix : Text) (excluded : List Text) (ms : List Model) :
    Except Failure (List (Text × Text)) :=
  ms.foldlM (fun acc m => (m.write keyPrefix excluded).map (Keyed.putAll acc)) []

/-- Writes the flat labels of the first model of one kind of owner. -/
def Model.writeOf (keyPrefix : Text) (excluded : List Text) (ms : List Model) (owner : Owner) :
    Except Failure (List (Text × Text)) :=
  (Model.find ms owner).bind (Model.write keyPrefix excluded)

/-- The two parts of `owner.field`, neither of them empty or with a further point. -/
def splitKey? (s : Text) : Option (Text × Text) :=
  let (owner, rest) := Text.breakAt '.' s
  match rest with
  | _ :: field =>
    if owner.isEmpty ∨ field.isEmpty ∨ field.contains (.char '.') then none else some (owner, field)
  | [] => none

/-- The owner and the field name that a key stands for. -/
def readKey? (keyPrefix key : Text) : Option (Owner × Text) := do
  let rest ← Text.after? (keyBase keyPrefix ++ ".") key
  let (owner, field) ← splitKey? rest
  let owner ← Owner.ofName? owner
  return (owner, Field.underscored field)

/-- The fields of each owner after one more label. -/
def regroupOne (keyPrefix : Text) (groups : List (Owner × List (Text × Json)))
    (label : Text × Json) : List (Owner × List (Text × Json)) :=
  match readKey? keyPrefix label.1 with
  | none => groups
  | some (owner, field) =>
    Keyed.put owner (Keyed.put field label.2 ((Keyed.get? owner groups).getD [])) groups

/-- The entries that flat labels write, labels of any other form being passed over. -/
def regroup (keyPrefix : Text) (labels : List (Text × Json)) : List Entry :=
  (labels.foldl (regroupOne keyPrefix) []).map fun (owner, fields) => ⟨.str owner.name, fields⟩

def Label.ofFlat (keyPrefix : Text) (labels : List (Text × Json)) : Label :=
  match regroup keyPrefix labels with
  | [] => .absent
  | [entry] => .one entry
  | entries => .many (entries.map some)

end ProxyFleet
