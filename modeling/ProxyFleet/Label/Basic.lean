import ProxyFleet.Failure
import ProxyFleet.Text.Numeral

/-!
# Labels

A label names the owners of a runner: one entry for each, with whatever field values the caller
supplied. Reading an entry gives a model, in which fields have their types and fields that were
never supplied are told apart from fields that were supplied with the same value.
-/

namespace ProxyFleet

/-- One entry of a label: the name of a kind of owner and field values. -/
structure Entry where
  tag : Json
  fields : List (Text × Json)

/-- What a runner carries as its label. An element of a list may be missing. -/
inductive Label where
  | absent
  | one (entry : Entry)
  | many (entries : List (Option Entry))

def Label.entries : Label → List (Option Entry)
  | absent => []
  | one entry => [some entry]
  | many entries => entries

/-- A readable label entry: its kind of owner and the fields that were supplied, in the order of
the kind's fields. -/
structure Model where
  owner : Owner
  supplied : List (Text × Setting)
  deriving DecidableEq, Repr

namespace Model

/-- The names of the fields that were never supplied, in order. -/
def defaults (m : Model) : List Text :=
  (m.owner.fields.map Field.name).filter fun name => !Keyed.has name m.supplied

def isDefault (m : Model) (name : Text) : Bool := m.defaults.contains name

/-- The fields among `names` that were never supplied. -/
def missing (m : Model) (names : List Text) : List Text := names.filter m.isDefault

/-- The value of every field, in order. -/
def settings (m : Model) : List (Text × Setting) :=
  m.owner.fields.map fun f => (f.name, (Keyed.get? f.name m.supplied).getD f.initial)

def text (m : Model) (name : Text) : Text :=
  match Keyed.get? name m.settings with
  | some setting => setting.toText
  | none => ""

end Model

/-- The kind of owner that a tag stands for. -/
def Owner.ofTag? : Json → Option Owner
  | .str s => ofName? s
  | _ => none

/-- A whole number: one that is given as such, a double cut to it, or a text in canonical form. The
failure is that of an infinite double. -/
def Setting.ofNumber? : Json → Except Failure (Option Setting)
  | .int n => .ok (some (number n))
  | .float (.infinite _) => .error .overflow
  | .float x => .ok (x.truncate?.map number)
  | .str s => .ok ((Text.readCanonicalInt? s).map number)
  | _ => .ok none

/-- A truth value or its name. -/
def Setting.ofFlag? : Json → Option Setting
  | .bool b => some (flag b)
  | .str s => [flag true, flag false].find? fun setting => setting.toText == s
  | _ => none

/-- The value of a field of the given kind, or nothing when the value cannot be read as one. -/
def FieldKind.read? : FieldKind → Json → Except Failure (Option Setting)
  | text, j => .ok (j.text?.map .text)
  | number, j => Setting.ofNumber? j
  | flag, j => .ok (Setting.ofFlag? j)

/-- The supplied ones of a list of fields. The first one that cannot be read is the failure. -/
def Entry.readFields (given : List (Text × Json)) :
    List Field → Except Failure (List (Text × Setting))
  | [] => .ok []
  | f :: rest =>
    match Keyed.get? f.name given with
    | none => readFields given rest
    | some j =>
      match f.kind.read? j with
      | .error e => .error e
      | .ok none => .error (.incompleteInput [f.name])
      | .ok (some setting) => (readFields given rest).map ((f.name, setting) :: ·)

/-- The model of an entry. -/
def Entry.read : Option Entry → Except Failure Model
  | none => .error (.unrecognizedOwner .null)
  | some e =>
    match Owner.ofTag? e.tag with
    | none => .error (.unrecognizedOwner e.tag)
    | some owner => (readFields e.fields owner.fields).map fun supplied => ⟨owner, supplied⟩

/-- The models of entries; the first unreadable entry is the failure. -/
def Entry.readAll : List (Option Entry) → Except Failure (List Model)
  | [] => .ok []
  | e :: rest => do
    let m ← read e
    let ms ← readAll rest
    return m :: ms

/-- The models of a label, one for each entry and at least one. -/
def Label.read (l : Label) : Except Failure (List Model) :=
  match l.entries with
  | [] => .error (.unrecognizedOwner .null)
  | entries => Entry.readAll entries

namespace Model

/-- The first model of a kind of owner. -/
def find (ms : List Model) (owner : Owner) : Except Failure Model :=
  match ms.find? fun m => m.owner = owner with
  | some m => .ok m
  | none => .error (.missingOwner owner)

def has (ms : List Model) (owner : Owner) : Bool := ms.any fun m => m.owner = owner

end Model

/-- A label together with the models of its last successful reading. -/
structure LabelReader where
  label : Label
  models : List Model

namespace LabelReader

def ofLabel (l : Label) : LabelReader := ⟨l, []⟩

/-- Reads the label. The models change only when every entry can be read. -/
def read (r : LabelReader) : Except Failure (List Model) × LabelReader :=
  match r.label.read with
  | .ok ms => (.ok ms, { r with models := ms })
  | .error e => (.error e, r)

end LabelReader

end ProxyFleet
