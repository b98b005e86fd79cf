import ProxyFleet.Proofs.Label.Writing

/-!
# Restoring models

Flat labels that were written from models can be read again, and writing what was read gives them
once more, whatever other labels they were put among.
-/

namespace ProxyFleet

variable {p : Text} {o : Owner} {f : Field} {excluded : List Text} {ms : List Model}
  {labels : List (Text × Text)}

/-- What was written is read as the setting that it was written from. -/
lemma FieldKind.read?_toText {x : Setting} (h : x.Writable) :
    x.kind.read? (.str x.toText) = .ok (some x) := by
  rw [read?_eq_some]
  cases x with
  | text s => exact .text rfl
  | number n => exact .numeral h
  | flag b => exact .named b

/-- What is related element by element exists when something is related to every element. -/
lemma exists_forall₂ {α β : Type} {R : α → β → Prop} {xs : List α} (h : ∀ x ∈ xs, ∃ y, R x y) :
    ∃ ys, List.Forall₂ R xs ys := by
  induction xs with
  | nil => exact ⟨[], .nil⟩
  | cons x xs ih =>
    obtain ⟨y, first⟩ := h x List.mem_cons_self
    obtain ⟨ys, others⟩ := ih fun x' mem => h x' (List.mem_cons_of_mem _ mem)
    exact ⟨y :: ys, .cons first others⟩

/-- Labels can be read when there is one for some field and every one for a field can be. -/
lemma exists_read (nodup : (Keyed.keys labels).Nodup)
    (hyphenated : Hyphenated p (Keyed.keys labels))
    (readable : ∀ {o : Owner} {f : Field} {v : Text}, f ∈ o.fields →
      Keyed.get? (fieldKey p o f.name) labels = some v → ∃ x, f.kind.read? (.str v) = .ok (some x))
    (known : f ∈ o.fields) (shown : (Keyed.get? (fieldKey p o f.name) labels).isSome) :
    ∃ ms, (Label.ofFlat p (shownLabels labels)).read = .ok ms := by
  have groups : ∀ group ∈ (shownLabels labels).foldl (regroupOne p) [],
      ∃ m, Entry.Reads group m := by
    rintro ⟨owner, fields⟩ grouped
    have value : ∀ f ∈ owner.fields, ∀ j, Keyed.get? f.name fields = some j →
        ∃ x, f.kind.read? j = .ok (some x) := by
      intro f known j found
      have slot := slot?_shownLabels nodup hyphenated known
      rw [slot?, Keyed.get?_of_mem (nodup_regroup Keyed.nodup_nil _) grouped, Option.bind_some,
        found] at slot
      obtain ⟨v, shown, rfl⟩ := Option.map_eq_some_iff.mp slot.symm
      exact readable known shown
    obtain ⟨supplied, fieldsRead⟩ := Entry.exists_readFields value
    exact ⟨⟨owner, supplied⟩, rfl, fieldsRead⟩
  obtain ⟨ms, read⟩ := exists_forall₂ groups
  refine ⟨ms, Label.read_ofFlat.mpr ⟨fun none => ?_, read⟩⟩
  have slot := slot?_shownLabels nodup hyphenated known
  rw [none] at slot
  obtain ⟨v, shown⟩ := Option.isSome_iff_exists.mp shown
  rw [shown] at slot
  cases slot

/-- The text of a field that was written can be read as a value of the field. -/
lemma exists_read_of_get?_flatAll {v : Text} (wf : ∀ m ∈ ms, m.WellFormed)
    (writes : ∀ m ∈ ms, m.Writes excluded) (known : f ∈ o.fields)
    (h : Keyed.get? (fieldKey p o f.name) (Model.flatAll p excluded ms) = some v) :
    ∃ x, f.kind.read? (.str v) = .ok (some x) := by
  obtain ⟨m, mem, f', known', x, kept, kind, key, supplied, rfl⟩ :=
    Model.exists_of_get?_flatAll wf h
  obtain ⟨rfl, name⟩ := fieldKey_inj known known' key
  obtain rfl := Owner.field_unique known known' name
  refine ⟨x, ?_⟩
  rw [kind]
  exact FieldKind.read?_toText (writes m mem _ (Keyed.mem_of_get? supplied) kept)

/-- Labels that agree with those of models about every field are read as models that are written as
the same labels. -/
lemma exists_read_agreeing (nodup : (Keyed.keys labels).Nodup)
    (hyphenated : Hyphenated p (Keyed.keys labels)) (wf : ∀ m ∈ ms, m.WellFormed)
    (writes : ∀ m ∈ ms, m.Writes excluded)
    (agree : ∀ {o : Owner} {f : Field}, f ∈ o.fields → Keyed.get? (fieldKey p o f.name) labels =
      Keyed.get? (fieldKey p o f.name) (Model.flatAll p excluded ms))
    (known : f ∈ o.fields) (shown : (Keyed.get? (fieldKey p o f.name) labels).isSome) :
    ∃ ms', (Label.ofFlat p (shownLabels labels)).read = .ok ms' ∧ (∀ m ∈ ms', m.Writes []) ∧
      ∀ key, Keyed.get? key (Model.flatAll p [] ms') =
        Keyed.get? key (Model.flatAll p excluded ms) := by
  have readable : ∀ {o : Owner} {f : Field} {v : Text}, f ∈ o.fields →
      Keyed.get? (fieldKey p o f.name) labels = some v →
        ∃ x, f.kind.read? (.str v) = .ok (some x) := by
    intro o f v known shown
    rw [agree known] at shown
    exact exists_read_of_get?_flatAll wf writes known shown
  obtain ⟨ms', read⟩ := exists_read nodup hyphenated readable known shown
  have wf' := Label.wellFormed_of_read read
  refine ⟨ms', read,
    fun m mem => (writable_of_read nodup hyphenated read mem).writes [], fun key => ?_⟩
  by_cases field : ∃ o : Owner, ∃ f ∈ o.fields, key = fieldKey p o f.name
  · obtain ⟨o, f, known, rfl⟩ := field
    rw [get?_flatAll_of_read nodup hyphenated read known, agree known]
  · -- neither of the two has a label under a key that is not the key of a field
    have none : ∀ {excluded : List Text} {ms : List Model}, (∀ m ∈ ms, m.WellFormed) →
        Keyed.get? key (Model.flatAll p excluded ms) = none := by
      intro excluded ms wf
      apply Option.eq_none_iff_forall_ne_some.mpr
      intro v written
      apply field
      obtain ⟨m, -, f, known, -, -, -, key, -⟩ := Model.exists_of_get?_flatAll wf written
      exact ⟨m.owner, f, known, key⟩
    rw [none wf', none wf]

end ProxyFleet
