import ProxyFleet.Proofs.Label.Reading

/-!
# Writing labels back

Flat labels are written as long as no number in them has too many digits. Writing the models of a
label that was read from a container gives the labels of the container that name fields of owners,
each with its value; all others are left out and none is added.
-/

namespace ProxyFleet

variable {p key v : Text} {o : Owner} {f : Field} {excluded : List Text} {m : Model}
  {ms : List Model} {labels : List (Text × Text)} {e : Failure}

/-! ## What can be written -/

/-- Whether the text of a setting can be written and read: a number must not be too long. -/
def Setting.Writable : Setting → Prop
  | number n => Text.hasNumeral n
  | _ => True

/-- Whether a value can be written can be decided. -/
instance : DecidablePred Setting.Writable := fun x =>
  match x with
  | .number n => inferInstanceAs (Decidable (Text.hasNumeral n = true))
  | .text _ | .flag _ => isTrue trivial

/-- Whether the numbers of a model can be written. -/
def Model.Writable (m : Model) : Prop := ∀ q ∈ m.supplied, q.2.Writable

/-- Whether the numbers of a model that are not left out can be written. -/
def Model.Writes (excluded : List Text) (m : Model) : Prop :=
  ∀ q ∈ m.supplied, q.1 ∉ excluded → q.2.Writable

/-- Whether a model can be written can be decided. -/
instance (excluded : List Text) : DecidablePred (Model.Writes excluded) := fun m =>
  inferInstanceAs (Decidable (∀ q ∈ m.supplied, q.1 ∉ excluded → q.2.Writable))

/-- What is read from a text can be written as one. -/
lemma FieldKind.writable_of_read?_str {kind : FieldKind} {x : Setting}
    (h : kind.read? (.str v) = .ok (some x)) : x.Writable := by
  cases read?_eq_some.mp h with
  | text | named => trivial
  | numeral short => exact short

/-- A setting is written as its text, if it can be. -/
lemma Setting.write_eq (x : Setting) :
    x.write = if x.Writable then .ok x.toText else .error .badNumeral := by
  cases x <;> rfl

namespace Model

/-- A model whose numbers can be written has its flat labels written. -/
lemma Writes.write (h : m.Writes excluded) (p : Text) :
    m.write p excluded = .ok (m.flat p excluded) := by
  refine mapM_eq_ok.mpr ?_
  rw [flat, List.map_map]
  refine List.map_congr_left fun q kept => ?_
  obtain ⟨supplied, kept⟩ := List.mem_filter.mp kept
  rw [Setting.write_eq, if_pos (h q supplied (by simpa using kept))]
  rfl

/-- One number that cannot be written is enough for none of the flat labels to be written. -/
lemma write_eq (p : Text) (excluded : List Text) (m : Model) : m.write p excluded =
    if m.Writes excluded then .ok (m.flat p excluded) else .error .badNumeral := by
  split
  case isTrue writes => exact writes.write p
  case isFalse spoilt =>
    cases written : m.write p excluded with
    | ok labels =>
      -- every single setting has been written then
      refine absurd (fun q supplied kept => ?_) spoilt
      have kept : q ∈ m.supplied.filter fun q => !excluded.contains q.1 :=
        List.mem_filter.mpr ⟨supplied, by simpa using kept⟩
      obtain ⟨_, label⟩ := forall_of_mapM written q kept
      obtain ⟨_, text, -⟩ := map_eq_ok.mp label
      rw [Setting.write_eq] at text
      by_contra unwritable
      rw [if_neg unwritable] at text
      cases text
    | error e =>
      obtain ⟨_, q, _, -, -, failed⟩ := mapM_eq_error.mp written
      have failed := map_eq_error.mp failed
      rw [Setting.write_eq] at failed
      split at failed <;> cases failed
      rfl

/-- So it is with all models. -/
lemma writeAll_eq (p : Text) (excluded : List Text) (ms : List Model) : writeAll p excluded ms =
    if ∀ m ∈ ms, m.Writes excluded then .ok (flatAll p excluded ms) else .error .badNumeral := by
  have from_eq : ∀ acc, ms.foldlM (fun acc m => (m.write p excluded).map (Keyed.putAll acc)) acc =
      if ∀ m ∈ ms, m.Writes excluded then
        .ok (ms.foldl (fun acc m => Keyed.putAll acc (m.flat p excluded)) acc)
      else .error .badNumeral := by
    induction ms with
    | nil => exact fun acc => rfl
    | cons m rest ih =>
      intro acc
      rw [List.foldlM_cons, write_eq]
      by_cases first : m.Writes excluded
      · rw [if_pos first]
        show rest.foldlM _ (Keyed.putAll acc (m.flat p excluded)) = _
        simp only [ih, List.forall_mem_cons, first, true_and, List.foldl_cons]
      · rw [if_neg first, if_neg fun writes => first (writes m List.mem_cons_self)]
        rfl
  exact from_eq []

/-- The flat labels of all models are written when all their numbers can be. -/
lemma writeAll_eq_ok : writeAll p excluded ms = .ok labels ↔
    (∀ m ∈ ms, m.Writes excluded) ∧ flatAll p excluded ms = labels := by
  rw [writeAll_eq]
  split
  case isTrue writes => exact ⟨fun h => ⟨writes, Except.ok.inj h⟩, fun h => congrArg _ h.2⟩
  case isFalse spoilt => exact ⟨nofun, fun h => absurd h.1 spoilt⟩

/-- They are not written only because of a number in them. -/
lemma writeAll_eq_error : writeAll p excluded ms = .error e ↔
    (¬ ∀ m ∈ ms, m.Writes excluded) ∧ e = .badNumeral := by
  rw [writeAll_eq]
  split
  case isTrue writes => exact ⟨nofun, fun h => absurd writes h.1⟩
  case isFalse spoilt => exact ⟨fun h => ⟨spoilt, (Except.error.inj h).symm⟩, fun h => h.2 ▸ rfl⟩

/-- The flat labels of an owner are written when its first model has no number that cannot be. -/
lemma writeOf_eq_ok : writeOf p excluded ms o = .ok labels ↔
    (∃ m, find ms o = .ok m ∧ m.Writes excluded) ∧ flatOf p excluded ms o = .ok labels := by
  unfold writeOf flatOf
  cases find ms o with
  | error e => simp [Except.bind, Except.map]
  | ok m =>
    simp only [Except.bind, Except.map, write_eq, Except.ok.injEq, exists_eq_left']
    split <;> rename_i writes <;> simp [writes]

end Model

/-- A model whose numbers can all be written is written whatever is left out. -/
lemma Model.Writable.writes (h : m.Writable) (excluded : List Text) : m.Writes excluded :=
  fun q supplied _ => h q supplied

/-! ## Flat labels of models -/

namespace Model

/-- The labels of a model are those of its supplied fields that are not excluded. -/
lemma mem_flat : (key, v) ∈ m.flat p excluded ↔ ∃ q ∈ m.supplied, q.1 ∉ excluded ∧
    key = fieldKey p m.owner q.1 ∧ v = q.2.toText := by
  simp only [flat, List.mem_map, List.mem_filter, Bool.not_eq_true', List.contains_eq_mem,
    decide_eq_false_iff_not, Prod.mk.injEq]
  constructor
  · rintro ⟨q, ⟨mem, kept⟩, rfl, rfl⟩
    exact ⟨q, mem, kept, rfl, rfl⟩
  · rintro ⟨q, mem, kept, rfl, rfl⟩
    exact ⟨q, ⟨mem, kept⟩, rfl, rfl⟩

/-- A well-formed model has no key twice. -/
lemma WellFormed.nodup_flat (wf : m.WellFormed) (p : Text) (excluded : List Text) :
    (Keyed.keys (m.flat p excluded)).Nodup := by
  unfold Keyed.keys flat
  rw [List.map_map]
  refine List.Nodup.map_on ?_ (List.Nodup.filter _ (List.Nodup.of_map _ wf.nodup))
  intro q mem q' mem' eq
  have mem := List.mem_of_mem_filter mem
  have mem' := List.mem_of_mem_filter mem'
  obtain ⟨f, known, name, -⟩ := wf.typed q mem
  obtain ⟨f', known', name', -⟩ := wf.typed q' mem'
  have same : q.1 = q'.1 := by
    rw [← name, ← name']
    refine (fieldKey_inj (p := p) known known' ?_).2
    rw [name, name']
    exact eq
  exact List.inj_on_of_nodup_map wf.nodup mem mem' same

/-- A kept field of a well-formed model is found by its key, with its value as a text. -/
lemma WellFormed.get?_flat (wf : m.WellFormed) (p : Text) (known : f ∈ m.owner.fields)
    (kept : f.name ∉ excluded) : Keyed.get? (fieldKey p m.owner f.name) (m.flat p excluded) =
      (Keyed.get? f.name m.supplied).map Setting.toText := by
  rcases value : Keyed.get? f.name m.supplied with _ | x
  · apply Keyed.get?_eq_none.mpr
    intro mem
    obtain ⟨⟨_, v⟩, mem, rfl⟩ := List.mem_map.mp mem
    obtain ⟨q, supplied, -, eq, -⟩ := mem_flat.mp mem
    obtain ⟨f', known', name, -⟩ := wf.typed q supplied
    rw [← name] at eq
    have same := (fieldKey_inj known known' eq).2.trans name
    exact Keyed.get?_eq_none.mp value (same ▸ List.mem_map_of_mem supplied)
  · have supplied := Keyed.mem_of_get? value
    exact Keyed.get?_of_mem (wf.nodup_flat p excluded)
      (mem_flat.mpr ⟨_, supplied, kept, rfl, rfl⟩)

/-- A field that was supplied has the text of its setting. -/
lemma WellFormed.text_eq (wf : m.WellFormed) {name : Text} {x : Setting}
    (supplied : (name, x) ∈ m.supplied) : m.text name = x.toText := by
  obtain ⟨f, known, rfl, -⟩ := wf.typed _ supplied
  have keys : Keyed.keys m.settings = m.owner.fields.map Field.name := by
    simp [Keyed.keys, settings, Function.comp_def]
  have value : Keyed.get? f.name m.settings = some x := by
    refine Keyed.get?_of_mem (keys ▸ m.owner.nodup_names) (List.mem_map.mpr ⟨f, known, ?_⟩)
    rw [Keyed.get?_of_mem wf.nodup supplied]
    rfl
  rw [text, value]

/-- The last model that has a label counts, and otherwise what was there. -/
lemma get?_flatAll_from (wf : ∀ m ∈ ms, m.WellFormed) (p key : Text) (excluded : List Text)
    (acc : List (Text × Text)) :
    Keyed.get? key (ms.foldl (fun acc m => Keyed.putAll acc (m.flat p excluded)) acc) =
      (ms.reverse.findSome? fun m => Keyed.get? key (m.flat p excluded)).or
        (Keyed.get? key acc) := by
  induction ms generalizing acc with
  | nil => rfl
  | cons m rest ih =>
    have nodup := (wf m List.mem_cons_self).nodup_flat p excluded
    rw [List.foldl_cons, ih (fun m' mem => wf m' (List.mem_cons_of_mem _ mem)),
      Keyed.get?_putAll_of_nodup key nodup, List.reverse_cons, List.findSome?_append,
      Option.or_assoc, List.findSome?_singleton]

/-- The last model that has a label counts. -/
lemma get?_flatAll (wf : ∀ m ∈ ms, m.WellFormed) (p key : Text) (excluded : List Text) :
    Keyed.get? key (flatAll p excluded ms) =
      ms.reverse.findSome? fun m => Keyed.get? key (m.flat p excluded) := by
  rw [flatAll, get?_flatAll_from wf]
  exact Option.or_none

/-- Models that are flattened together have no key twice. -/
lemma nodup_flatAll (p : Text) (excluded : List Text) (ms : List Model) :
    (Keyed.keys (flatAll p excluded ms)).Nodup := by
  have keep : ∀ {acc : List (Text × Text)}, (Keyed.keys acc).Nodup → (Keyed.keys
      (ms.foldl (fun acc m => Keyed.putAll acc (m.flat p excluded)) acc)).Nodup := by
    induction ms with
    | nil => exact fun nodup => nodup
    | cons m rest ih => exact fun nodup => ih (Keyed.nodup_putAll nodup _)
  exact keep Keyed.nodup_nil

/-- Every label of well-formed models is that of a kept field of one of them. -/
lemma exists_of_get?_flatAll (wf : ∀ m ∈ ms, m.WellFormed)
    (h : Keyed.get? key (flatAll p excluded ms) = some v) :
    ∃ m ∈ ms, ∃ f ∈ m.owner.fields, ∃ x, f.name ∉ excluded ∧ f.kind = x.kind ∧
      key = fieldKey p m.owner f.name ∧ Keyed.get? f.name m.supplied = some x ∧ v = x.toText := by
  rw [get?_flatAll wf] at h
  obtain ⟨m, mem, found⟩ := List.exists_of_findSome?_eq_some h
  obtain ⟨q, supplied, kept, eq, text⟩ := mem_flat.mp (Keyed.mem_of_get? found)
  have mem := List.mem_reverse.mp mem
  obtain ⟨f, known, name, kind⟩ := (wf m mem).typed q supplied
  refine ⟨m, mem, f, known, q.2, name ▸ kept, kind, name ▸ eq, ?_, text⟩
  rw [name]
  exact Keyed.get?_of_mem (wf m mem).nodup supplied

/-- A supplied field that is kept has a label. -/
lemma isSome_get?_flatAll (wf : ∀ m ∈ ms, m.WellFormed) (mem : m ∈ ms)
    (known : f ∈ m.owner.fields) (kept : f.name ∉ excluded)
    (supplied : (Keyed.get? f.name m.supplied).isSome) :
    (Keyed.get? (fieldKey p m.owner f.name) (flatAll p excluded ms)).isSome := by
  rw [get?_flatAll wf, List.findSome?_isSome_iff]
  refine ⟨m, List.mem_reverse.mpr mem, ?_⟩
  rw [(wf m mem).get?_flat p known kept, Option.isSome_map, supplied]

end Model

/-! ## Labels of a container -/

/-- Flat labels as docker shows them, each value a text. -/
def shownLabels (labels : List (Text × Text)) : List (Text × Json) :=
  labels.map fun q => (q.1, .str q.2)

/-- Labels are shown under their own keys. -/
lemma keys_shownLabels (labels : List (Text × Text)) :
    Keyed.keys (shownLabels labels) = Keyed.keys labels := by
  simp [Keyed.keys, shownLabels]

/-- Labels are shown with their values as texts. -/
lemma get?_shownLabels (key : Text) (labels : List (Text × Text)) :
    Keyed.get? key (shownLabels labels) = (Keyed.get? key labels).map .str :=
  Keyed.get?_map (fun _ => Json.str) key

/-- A field has the value that is shown under its key. -/
lemma slot?_shownLabels (nodup : (Keyed.keys labels).Nodup)
    (hyphenated : Hyphenated p (Keyed.keys labels)) (known : f ∈ o.fields) :
    slot? ((shownLabels labels).foldl (regroupOne p) []) o f.name =
      (Keyed.get? (fieldKey p o f.name) labels).map .str := by
  rw [slot?_regroup (readKey?_fieldKey p known) (by rwa [keys_shownLabels])]
  · rw [get?_shownLabels]
    exact Option.or_none
  · rw [keys_shownLabels]
    exact fun k mem read => hyphenated.eq_fieldKey mem read

section

variable (nodup : (Keyed.keys labels).Nodup) (hyphenated : Hyphenated p (Keyed.keys labels))
  (read : (Label.ofFlat p (shownLabels labels)).read = .ok ms)

include nodup hyphenated read

/-- Every field of a model has the setting that is read from the label under its key. -/
lemma rel_supplied_of_read (mem : m ∈ ms) (known : f ∈ m.owner.fields) :
    Option.Rel (fun v x => f.kind.read? (.str v) = .ok (some x))
      (Keyed.get? (fieldKey p m.owner f.name) labels) (Keyed.get? f.name m.supplied) := by
  obtain ⟨-, groups⟩ := Label.read_ofFlat.mp read
  obtain ⟨⟨owner, fields⟩, grouped, rfl, fieldsRead⟩ := exists_mem_left groups mem
  have value := slot?_shownLabels nodup hyphenated known
  unfold slot? at value
  rw [Keyed.get?_of_mem (nodup_regroup Keyed.nodup_nil _) grouped, Option.bind_some] at value
  have rel := (Entry.readFields_rel fieldsRead (Owner.nodup_names _)).1 f known
  rw [value] at rel
  generalize Keyed.get? (fieldKey p m.owner f.name) labels = shown at rel ⊢
  generalize Keyed.get? f.name m.supplied = x at rel ⊢
  cases shown with
  | none => cases rel; exact .none
  | some v => cases rel with | some fieldRead => exact .some fieldRead

/-- What is read from texts can be written as texts. -/
lemma writable_of_read (mem : m ∈ ms) : m.Writable := by
  intro q supplied
  have wf := Label.wellFormed_of_read read m mem
  obtain ⟨f, known, name, -⟩ := wf.typed q supplied
  have rel := rel_supplied_of_read nodup hyphenated read mem known
  rw [name, Keyed.get?_of_mem wf.nodup supplied] at rel
  generalize Keyed.get? (fieldKey p m.owner q.1) labels = shown at rel
  cases rel with
  | some fieldRead => exact FieldKind.writable_of_read?_str fieldRead

/-- Every field of a model has the text that the labels have under its key. -/
lemma get?_supplied_of_read (mem : m ∈ ms) (known : f ∈ m.owner.fields) :
    (Keyed.get? f.name m.supplied).map Setting.toText =
      Keyed.get? (fieldKey p m.owner f.name) labels := by
  have rel := rel_supplied_of_read nodup hyphenated read mem known
  generalize Keyed.get? (fieldKey p m.owner f.name) labels = shown at rel ⊢
  generalize Keyed.get? f.name m.supplied = x at rel ⊢
  cases rel with
  | none => rfl
  | some fieldRead => exact congrArg some (FieldKind.read?_str fieldRead)

/-- An owner that has a label for one of its fields has a model. -/
lemma exists_model_of_read (known : f ∈ o.fields)
    (shown : Keyed.get? (fieldKey p o f.name) labels = some v) : ∃ m ∈ ms, m.owner = o := by
  obtain ⟨-, groups⟩ := Label.read_ofFlat.mp read
  have value := slot?_shownLabels nodup hyphenated known
  rw [shown] at value
  obtain ⟨fields, grouped, -⟩ := Option.bind_eq_some_iff.mp value
  obtain ⟨m, mem, owner, -⟩ := exists_mem_left groups.flip (Keyed.mem_of_get? grouped)
  exact ⟨m, mem, owner⟩

/-- What is read from the labels and written again under the key of a field is the label. -/
lemma get?_flatAll_of_read (known : f ∈ o.fields) :
    Keyed.get? (fieldKey p o f.name) (Model.flatAll p [] ms) =
      Keyed.get? (fieldKey p o f.name) labels := by
  have wf := Label.wellFormed_of_read read
  have kept : f.name ∉ ([] : List Text) := List.not_mem_nil
  -- a label that is written comes from a model, and this model has read it
  have sound : ∀ v, Keyed.get? (fieldKey p o f.name) (Model.flatAll p [] ms) = some v →
      Keyed.get? (fieldKey p o f.name) labels = some v := by
    intro v written
    obtain ⟨m, mem, f', known', x, -, -, key, supplied, rfl⟩ :=
      Model.exists_of_get?_flatAll wf written
    rw [key, ← get?_supplied_of_read nodup hyphenated read mem known', supplied]
    rfl
  rcases shown : Keyed.get? (fieldKey p o f.name) labels with _ | v
  · exact Option.eq_none_iff_forall_ne_some.mpr fun v written => by simp [sound v written] at shown
  · obtain ⟨m, mem, rfl⟩ := exists_model_of_read nodup hyphenated read known shown
    have text := get?_supplied_of_read nodup hyphenated read mem known
    have supplied : (Keyed.get? f.name m.supplied).isSome := by
      rw [← Option.isSome_map, text, shown]
      rfl
    obtain ⟨v', written⟩ := Option.isSome_iff_exists.mp
      (Model.isSome_get?_flatAll wf mem known kept supplied)
    rw [written, ← shown, sound v' written]

end

/-- What is read from flat labels can be written again, and what is written are the labels that name
fields of owners, with their values. Provided that no key of such a form has an underscore in its
last part, every value that is accepted is written as it was, none is lost and none is invented,
whatever other labels there are. -/
theorem written_labels_iff (nodup : (Keyed.keys labels).Nodup)
    (hyphenated : Hyphenated p (Keyed.keys labels))
    (read : (Label.ofFlat p (shownLabels labels)).read = .ok ms) :
    Model.writeAll p [] ms = .ok (Model.flatAll p [] ms) ∧
      (Keyed.get? key (Model.flatAll p [] ms) = some v ↔ Keyed.get? key labels = some v ∧
        ∃ o : Owner, ∃ f ∈ o.fields, key = fieldKey p o f.name) := by
  have writes : ∀ m ∈ ms, m.Writes [] := fun m mem =>
    (writable_of_read nodup hyphenated read mem).writes []
  refine ⟨Model.writeAll_eq_ok.mpr ⟨writes, rfl⟩, ?_⟩
  constructor
  · intro written
    obtain ⟨m, -, f, known, -, -, -, rfl, -⟩ :=
      Model.exists_of_get?_flatAll (Label.wellFormed_of_read read) written
    rw [get?_flatAll_of_read nodup hyphenated read known] at written
    exact ⟨written, m.owner, f, known, rfl⟩
  · rintro ⟨shown, o, f, known, rfl⟩
    rw [get?_flatAll_of_read nodup hyphenated read known, shown]

/-- Labels of a container, two of which name fields of owners. -/
def sampleLabels : List (Text × Text) :=
  [("fleet.proxy-downstream.mask", "24"), ("fleet.project", "relay"),
   ("fleet.proxy-downstream.ref-id", " 024"), ("fleet.stranger.mask", "024")]

/-- The number among the sample labels is written again, and what names no field is not. -/
theorem sample_labels_written :
    ∃ ms, (Label.ofFlat "fleet." (shownLabels sampleLabels)).read = .ok ms ∧
      Model.writeAll "fleet." [] ms = .ok (Model.flatAll "fleet." [] ms) ∧
      Keyed.get? (fieldKey "fleet." .egress "mask") (Model.flatAll "fleet." [] ms) =
        some ("24" : Text) ∧
      Keyed.get? ("fleet.stranger.mask" : Text) (Model.flatAll "fleet." [] ms) = none := by
  have nodup : (Keyed.keys sampleLabels).Nodup := by decide
  have plain : ∀ k ∈ Keyed.keys sampleLabels, .char '_' ∉ k := by decide
  have hyphenated : Hyphenated "fleet." (Keyed.keys sampleLabels) :=
    fun _ _ _ _ _ _ mem underscore => plain _ mem (List.mem_append_right _ underscore)
  have ok : (Label.ofFlat "fleet." (shownLabels sampleLabels)).read.toOption.isSome = true := by
    decide +kernel
  rcases read : (Label.ofFlat "fleet." (shownLabels sampleLabels)).read with e | ms
  · rw [read] at ok
    cases ok
  obtain ⟨written, mask⟩ : _ ∧ (Keyed.get? (fieldKey "fleet." .egress "mask")
      (Model.flatAll "fleet." [] ms) = some ("24" : Text) ↔ _) :=
    written_labels_iff nodup hyphenated read
  refine ⟨ms, rfl, written, mask.mpr ?_, ?_⟩
  · exact ⟨by decide, .egress, ⟨"mask", .number⟩, by decide, by decide⟩
  · apply Option.eq_none_iff_forall_ne_some.mpr
    intro v written
    obtain ⟨-, o, f, known, key⟩ := (written_labels_iff nodup hyphenated read).2.mp written
    have stranger : ∀ o : Owner, ∀ f ∈ o.fields,
        ("fleet.stranger.mask" : Text) ≠ fieldKey "fleet." o f.name := by
      intro o
      cases o <;> decide
    exact stranger o f known key

end ProxyFleet
