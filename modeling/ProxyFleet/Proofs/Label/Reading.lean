import ProxyFleet.Proofs.Outcome
import ProxyFleet.Proofs.Label.Regroup
import ProxyFleet.Proofs.Text.Numeral

/-!
# Reading labels

What a value is converted to depends on the kind of its field: a field that is read holds a setting
of its kind, and a text that is read is the text of its setting. A label can be read when every
value of a field can be, and its models then hold the settings of these values.
-/

namespace ProxyFleet

/-- The kind of the fields that may hold a setting. -/
def Setting.kind : Setting → FieldKind
  | text _ => .text
  | number _ => .number
  | flag _ => .flag

/-- Whether the fields of a model are different ones of its owner, each with a setting of its
kind. -/
structure Model.WellFormed (m : Model) : Prop where
  nodup : (Keyed.keys m.supplied).Nodup
  typed : ∀ q ∈ m.supplied, ∃ f ∈ m.owner.fields, f.name = q.1 ∧ f.kind = q.2.kind

/-- The text of a value, when it has one. -/
lemma Json.text?_eq_some {j : Json} {t : Text} :
    j.text? = some t ↔ j.isWritable ∧ j.text = t := by
  simp [Json.text?]

variable {p name : Text} {o : Owner} {given : List (Text × Json)} {fs : List Field}
  {supplied : List (Text × Setting)}

/-- What a value is converted to for a field of a kind. -/
inductive FieldKind.Converts : FieldKind → Json → Setting → Prop where
  /-- A value has a text as long as all numbers inside it have numerals. -/
  | text {j : Json} {t : Text} : j.text? = some t → Converts .text j (.text t)
  | whole (n : Int) : Converts .number (.int n) (.number n)
  /-- A double loses its fraction. -/
  | cut {x : Binary64} {n : Int} : x.truncate? = some n → Converts .number (.float x) (.number n)
  | numeral {n : Int} : Text.hasNumeral n → Converts .number (.str (Text.numeral n)) (.number n)
  | flag (b : Bool) : Converts .flag (.bool b) (.flag b)
  | named (b : Bool) : Converts .flag (.str (Setting.flag b).toText) (.flag b)

namespace FieldKind

variable {kind : FieldKind} {j : Json} {x : Setting} {e : Failure}

/-- A value is read exactly as what it is converted to. -/
lemma read?_eq_some : kind.read? j = .ok (some x) ↔ kind.Converts j x := by
  constructor
  · intro h
    cases kind with
    | text =>
      obtain ⟨t, written, rfl⟩ := Option.map_eq_some_iff.mp (Except.ok.inj h)
      exact .text written
    | number =>
      cases j with
      | int n =>
        cases h
        exact .whole n
      | float d =>
        cases d with
        | finite =>
          cases h
          exact .cut rfl
        | infinite | nan => cases h
      | str s =>
        obtain ⟨n, read, rfl⟩ := Option.map_eq_some_iff.mp (Except.ok.inj h)
        obtain ⟨short, rfl⟩ := Text.readCanonicalInt?_eq_some.mp read
        exact .numeral short
      | null | bool | arr | obj => cases h
    | flag =>
      cases j with
      | bool b =>
        cases h
        exact .flag b
      | str s =>
        have found : [Setting.flag true, .flag false].find? (·.toText == s) = some x :=
          Except.ok.inj h
        have named := List.find?_some found
        obtain rfl := beq_iff_eq.mp named
        rcases List.mem_pair.mp (List.mem_of_find?_eq_some found) with rfl | rfl <;>
          exact .named _
      | null | int | float | arr | obj => cases h
  · intro h
    cases h with
    | text written => exact congrArg (fun t => Except.ok (Option.map Setting.text t)) written
    | whole | flag => rfl
    | @cut d n cut =>
      cases d with
      | finite => exact congrArg (fun n => Except.ok (Option.map Setting.number n)) cut
      | infinite | nan => cases cut
    | @numeral n short =>
      have read := Text.readCanonicalInt?_numeral short
      exact congrArg (fun n => Except.ok (Option.map Setting.number n)) read
    | named b => cases b <;> rfl

/-- Reading a value breaks off at an infinite number, when a whole number is wanted. -/
lemma read?_eq_error : kind.read? j = .error e ↔
    kind = .number ∧ (∃ negative, j = .float (.infinite negative)) ∧ e = .overflow := by
  constructor
  · intro h
    cases kind with
    | text | flag => cases h
    | number =>
      cases j with
      | float d =>
        cases d with
        | infinite negative =>
          cases h
          exact ⟨rfl, ⟨negative, rfl⟩, rfl⟩
        | finite | nan => cases h
      | null | bool | int | str | arr | obj => cases h
  · rintro ⟨rfl, ⟨negative, rfl⟩, rfl⟩
    rfl

/-- What is read as a kind of value is of that kind. -/
lemma read?_kind (h : kind.read? j = .ok (some x)) : x.kind = kind := by
  cases read?_eq_some.mp h <;> rfl

/-- Texts are read in the one form that their settings are written in. -/
lemma read?_str {s : Text} (h : kind.read? (.str s) = .ok (some x)) : x.toText = s := by
  cases read?_eq_some.mp h with
  | text written => exact (Option.some.inj written).symm
  | numeral | named => rfl

end FieldKind

namespace Entry

/-- A list of fields that is read has a setting for every field with a value, read from it. -/
lemma readFields_rel (h : readFields given fs = .ok supplied)
    (nodup : (fs.map Field.name).Nodup) :
    (∀ f ∈ fs, Option.Rel (fun j x => f.kind.read? j = .ok (some x))
      (Keyed.get? f.name given) (Keyed.get? f.name supplied)) ∧
    (Keyed.keys supplied).Sublist (fs.map Field.name) := by
  induction fs generalizing supplied with
  | nil => cases h; exact ⟨nofun, .slnil⟩
  | cons f rest ih =>
    obtain ⟨fresh, nodup⟩ := List.nodup_cons.mp nodup
    unfold readFields at h
    split at h
    case h_1 none =>
      -- the field was not supplied, and no later one has its name
      obtain ⟨rel, sub⟩ := ih h nodup
      refine ⟨fun f' mem => ?_, sub.cons _⟩
      rcases List.mem_cons.mp mem with rfl | mem
      · rw [none, Keyed.get?_eq_none.mpr fun key => fresh (sub.subset key)]
        exact .none
      · exact rel f' mem
    case h_2 j value =>
      split at h
      · cases h
      · cases h
      · rename_i x read
        obtain ⟨others, readRest, rfl⟩ := map_eq_ok.mp h
        obtain ⟨rel, sub⟩ := ih readRest nodup
        refine ⟨fun f' mem => ?_, sub.cons_cons _⟩
        rcases List.mem_cons.mp mem with rfl | mem
        · rw [value, Keyed.get?, if_pos rfl]
          exact .some read
        · have other : f.name ≠ f'.name := fun eq => fresh (eq ▸ List.mem_map_of_mem mem)
          rw [Keyed.get?, if_neg other]
          exact rel f' mem

/-- A list of fields can be read when every value can be. -/
lemma exists_readFields (h : ∀ f ∈ fs, ∀ j, Keyed.get? f.name given = some j →
    ∃ x, f.kind.read? j = .ok (some x)) : ∃ supplied, readFields given fs = .ok supplied := by
  induction fs with
  | nil => exact ⟨[], rfl⟩
  | cons f rest ih =>
    obtain ⟨supplied, readRest⟩ := ih fun f' mem => h f' (List.mem_cons_of_mem _ mem)
    rcases value : Keyed.get? f.name given with _ | j
    · exact ⟨supplied, by simp only [readFields, value, readRest]⟩
    · obtain ⟨x, read⟩ := h f List.mem_cons_self j value
      exact ⟨(f.name, x) :: supplied, by simp only [readFields, value, read, readRest]; rfl⟩

/-- Whether a model is read from the fields of an owner. -/
def Reads (group : Owner × List (Text × Json)) (m : Model) : Prop :=
  m.owner = group.1 ∧ readFields group.2 group.1.fields = .ok m.supplied

/-- The entry of an owner is read as a model of that owner. -/
lemma read_iff {group : Owner × List (Text × Json)} {m : Model} :
    read (some ⟨.str group.1.name, group.2⟩) = .ok m ↔ Reads group m := by
  obtain ⟨owner, fields⟩ := group
  have known : Owner.ofTag? (.str owner.name) = some owner := Owner.ofName?_eq_some.mpr rfl
  simp only [read, known, map_eq_ok, Reads]
  constructor
  · rintro ⟨supplied, fieldsRead, rfl⟩
    exact ⟨rfl, fieldsRead⟩
  · rintro ⟨rfl, fieldsRead⟩
    exact ⟨m.supplied, fieldsRead, rfl⟩

/-- Entries are read where each of them is. -/
lemma readAll_iff {entries : List (Option Entry)} {ms : List Model} :
    readAll entries = .ok ms ↔ List.Forall₂ (fun e m => read e = .ok m) entries ms := by
  induction entries generalizing ms with
  | nil =>
    rw [List.forall₂_nil_left_iff]
    exact ⟨fun h => (Except.ok.inj h).symm, fun h => h ▸ rfl⟩
  | cons e rest ih =>
    rw [List.forall₂_cons_left_iff]
    constructor
    · intro h
      obtain ⟨m, first, h⟩ := bind_eq_ok.mp h
      obtain ⟨others, more, h⟩ := bind_eq_ok.mp h
      cases h
      exact ⟨m, others, first, ih.mp more, rfl⟩
    · rintro ⟨m, others, first, more, rfl⟩
      exact bind_eq_ok.mpr ⟨m, first, bind_eq_ok.mpr ⟨others, ih.mpr more, rfl⟩⟩

/-- The models that groups are read as have their owners. -/
lemma owners_of_reads {groups : List (Owner × List (Text × Json))} {ms : List Model}
    (h : List.Forall₂ Reads groups ms) : ms.map Model.owner = Keyed.keys groups := by
  induction h with
  | nil => rfl
  | cons reads _ ih => exact congrArg₂ List.cons reads.1 ih

/-- A model that is read is well formed. -/
lemma Reads.wellFormed {group : Owner × List (Text × Json)} {m : Model} (h : Reads group m) :
    m.WellFormed := by
  obtain ⟨owner, fieldsRead⟩ := h
  obtain ⟨rel, sub⟩ := readFields_rel fieldsRead group.1.nodup_names
  have nodup := sub.nodup group.1.nodup_names
  refine ⟨nodup, fun q mem => ?_⟩
  obtain ⟨f, known, name⟩ := List.mem_map.mp (sub.subset (List.mem_map_of_mem mem))
  rw [owner]
  refine ⟨f, known, name, ?_⟩
  have rel := rel f known
  rw [name, Keyed.get?_of_mem nodup mem] at rel
  generalize Keyed.get? q.1 group.2 = value at rel
  cases rel with
  | some read => exact (FieldKind.read?_kind read).symm

/-- An entry that is read is there, and is read as the owner that it names. -/
lemma reads_of_read {e : Option Entry} {m : Model} (h : read e = .ok m) :
    ∃ entry, e = some entry ∧ Reads (m.owner, entry.fields) m := by
  unfold read at h
  split at h
  · cases h
  · rename_i entry
    split at h
    · cases h
    · obtain ⟨supplied, fieldsRead, rfl⟩ := map_eq_ok.mp h
      exact ⟨entry, rfl, rfl, fieldsRead⟩

/-- An entry that is read has the tag of its owner. -/
lemma tag_of_read {entry : Entry} {m : Model} (h : read (some entry) = .ok m) :
    Owner.ofTag? entry.tag = some m.owner := by
  simp only [read] at h
  split at h
  · cases h
  · rename_i o tag
    obtain ⟨_, -, rfl⟩ := map_eq_ok.mp h
    exact tag

end Entry

/-- Looking for a model fails where its owner is missing, and in no other way. -/
lemma Model.find_failsWith {F : Failure → Prop} {ms : List Model} (h : F (.missingOwner o)) :
    FailsWith F (Model.find ms o) := by
  unfold find
  split
  · exact .ok _
  · exact .error h

/-- What is related to a list element by element has every element related to one of the list. -/
lemma exists_mem_left {α β : Type} {R : α → β → Prop} {xs : List α} {ys : List β} {y : β}
    (h : List.Forall₂ R xs ys) (mem : y ∈ ys) : ∃ x ∈ xs, R x y := by
  induction h with
  | nil => cases mem
  | cons related _ ih =>
    rcases List.mem_cons.mp mem with rfl | mem
    · exact ⟨_, List.mem_cons_self, related⟩
    · obtain ⟨x, found, related⟩ := ih mem
      exact ⟨x, List.mem_cons_of_mem _ found, related⟩

/-- A label that is read has entries, each of which is read. -/
lemma Label.read_eq_ok {l : Label} {ms : List Model} : l.read = .ok ms ↔
    l.entries ≠ [] ∧ List.Forall₂ (fun e m => Entry.read e = .ok m) l.entries ms := by
  unfold Label.read
  rcases l.entries with _ | ⟨e, rest⟩
  · simp
  · simp only [ne_eq, reduceCtorEq, not_false_eq_true, true_and]
    exact Entry.readAll_iff

/-- Every model of a label has been read from one of its entries. -/
lemma Label.exists_entry_of_read {l : Label} {ms : List Model} {m : Model} (h : l.read = .ok ms)
    (mem : m ∈ ms) : ∃ e, some e ∈ l.entries ∧ Entry.Reads (m.owner, e.fields) m := by
  obtain ⟨e, given, read⟩ := exists_mem_left (read_eq_ok.mp h).2 mem
  obtain ⟨entry, rfl, reads⟩ := Entry.reads_of_read read
  exact ⟨entry, given, reads⟩

/-- The models of a label are well formed. -/
lemma Label.wellFormed_of_read {l : Label} {ms : List Model} (h : l.read = .ok ms) :
    ∀ m ∈ ms, m.WellFormed := by
  intro m mem
  obtain ⟨e, -, reads⟩ := exists_entry_of_read h mem
  exact reads.wellFormed

/-- The label of a container is read group by group. -/
lemma Label.read_ofFlat {labels : List (Text × Json)} {ms : List Model} :
    (Label.ofFlat p labels).read = .ok ms ↔ labels.foldl (regroupOne p) [] ≠ [] ∧
      List.Forall₂ Entry.Reads (labels.foldl (regroupOne p) []) ms := by
  rw [Label.read_eq_ok, Label.ofFlat_entries]
  unfold regroup
  simp only [List.map_map, ne_eq, List.map_eq_nil_iff, List.forall₂_map_left_iff, Function.comp_def,
    Entry.read_iff]

end ProxyFleet
