import ProxyFleet.Proofs.Label.Restoring

/-!
# Scalar field values

Callers give texts, truth values, whole numbers and nothing else as the values of label fields.
Reading such values never breaks down, and the settings that are read from them can be written.
-/

namespace ProxyFleet

/-- Whether a value is a text, a truth value, a whole number that can be written, or missing. -/
def Json.Scalar : Json → Prop
  | null | bool _ | str _ => True
  | int n => Text.hasNumeral n
  | float _ | arr _ | obj _ => False

/-- Whether every value of an entry is a scalar one. -/
def Entry.Scalar (e : Entry) : Prop := ∀ q ∈ e.fields, q.2.Scalar

/-- Whether every entry of a label has scalar values only. -/
def Label.Scalar (l : Label) : Prop := ∀ e, some e ∈ l.entries → e.Scalar

variable {kind : FieldKind} {j : Json} {x : Setting} {e : Failure} {l : Label} {m : Model}
  {ms : List Model}

/-- What is read from a scalar value can be written. -/
lemma FieldKind.writable_of_read? (scalar : j.Scalar) (h : kind.read? j = .ok (some x)) :
    x.Writable := by
  cases read?_eq_some.mp h with
  | text | flag | named => trivial
  | whole => exact scalar
  | numeral short => exact short
  | cut => exact scalar.elim

/-- A scalar value overflows in no kind. -/
lemma FieldKind.read?_ne_error (scalar : j.Scalar) : kind.read? j ≠ .error e := by
  intro h
  obtain ⟨-, ⟨_, rfl⟩, -⟩ := read?_eq_error.mp h
  exact scalar

/-- The settings of a label with scalar values can be written. -/
lemma Label.Scalar.writable (scalar : l.Scalar) (read : l.read = .ok ms) (mem : m ∈ ms) :
    m.Writable := by
  intro q supplied
  obtain ⟨entry, given, -, fieldsRead⟩ := Label.exists_entry_of_read read mem
  obtain ⟨rel, sub⟩ := Entry.readFields_rel fieldsRead m.owner.nodup_names
  have known := sub.subset (List.mem_map_of_mem supplied)
  obtain ⟨f, known, name⟩ := List.mem_map.mp known
  have rel := rel f known
  rw [name, Keyed.get?_of_mem (sub.nodup m.owner.nodup_names) supplied] at rel
  rcases value : Keyed.get? q.1 entry.fields with _ | j
  · rw [value] at rel
    cases rel
  · rw [value] at rel
    cases rel with
    | some fieldRead =>
      exact FieldKind.writable_of_read? (scalar entry given _ (Keyed.mem_of_get? value)) fieldRead

end ProxyFleet
