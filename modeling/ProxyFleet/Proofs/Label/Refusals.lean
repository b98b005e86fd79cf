import ProxyFleet.Proofs.Label.Reading

/-!
# Refused labels

A label is read entry by entry, and an entry field by field in the order of the fields of its owner.
The first entry that belongs to no owner, or gives a field a value that cannot be converted, is what
a label is refused for, and the models of an earlier reading stay. One value is not refused but
breaks the reading off: an infinite number for a field that holds whole numbers.
-/

namespace ProxyFleet

/-- Whether a value is the first of a list that satisfies a predicate. -/
inductive FirstSuch {α : Type} (P : α → Prop) : List α → α → Prop where
  | here {x rest} : P x → FirstSuch P (x :: rest) x
  | there {x y rest} : ¬ P y → FirstSuch P rest x → FirstSuch P (y :: rest) x

namespace FirstSuch

variable {α : Type} {P : α → Prop} {x y : α} {xs : List α}

/-- The first such element is the only one. -/
lemma unique (h : FirstSuch P xs x) (h' : FirstSuch P xs y) : x = y := by
  induction h with
  | here p =>
    cases h' with
    | here => rfl
    | there n => exact absurd p n
  | there n _ ih =>
    cases h' with
    | here p => exact absurd p n
    | there _ h' => exact ih h'

/-- An element that is such stands before any other. -/
lemma cons_of_pos (p : P y) : FirstSuch P (y :: xs) x ↔ x = y := by
  constructor
  · intro h
    exact h.unique (.here p)
  · rintro rfl
    exact .here p

/-- An element that is not such may be passed over. -/
lemma cons_of_neg (n : ¬ P y) : FirstSuch P (y :: xs) x ↔ FirstSuch P xs x := by
  constructor
  · intro h
    cases h with
    | here p => exact absurd p n
    | there _ h => exact h
  · exact .there n

end FirstSuch

variable {j : Json} {e : Failure} {f : Field} {fs : List Field} {given : List (Text × Json)}
  {supplied : List (Text × Setting)} {o : Owner}

/-! ## Fields of an entry -/

namespace Entry

/-- Whether a field is given a value that cannot be converted. For a text that is a value with a
number inside it that has too many digits to be written. -/
def Unconvertible (given : List (Text × Json)) (f : Field) : Prop :=
  ∃ j, Keyed.get? f.name given = some j ∧ ∀ x, ¬ f.kind.Converts j x

/-- Whether a field for whole numbers is given an infinite one. -/
def Infinite (given : List (Text × Json)) (f : Field) : Prop :=
  f.kind = .number ∧ ∃ negative, Keyed.get? f.name given = some (.float (.infinite negative))

/-- An infinite number for a whole one cannot be converted. -/
lemma Infinite.unconvertible (h : Infinite given f) : Unconvertible given f := by
  obtain ⟨number, negative, value⟩ := h
  refine ⟨_, value, fun x converts => ?_⟩
  rw [number] at converts
  cases converts with
  | cut none => cases none

/-- Fields are read up to the first one whose value cannot be converted. -/
lemma readFields_eq_error : readFields given fs = .error e ↔
    ∃ f, FirstSuch (Unconvertible given) fs f ∧
      (Infinite given f ∧ e = .overflow ∨ ¬ Infinite given f ∧ e = .incompleteInput [f.name]) := by
  induction fs with
  | nil => exact ⟨nofun, nofun⟩
  | cons f rest ih =>
    rcases value : Keyed.get? f.name given with _ | j
    · have fine : ¬ Unconvertible given f := fun ⟨j, found, _⟩ => nomatch value.symm.trans found
      simp only [readFields, value, ih, FirstSuch.cons_of_neg fine]
    rcases read : f.kind.read? j with e' | _ | x
    · obtain ⟨number, ⟨negative, rfl⟩, rfl⟩ := FieldKind.read?_eq_error.mp read
      have infinite : Infinite given f := ⟨number, negative, value⟩
      simp only [readFields, value, read, FirstSuch.cons_of_pos infinite.unconvertible,
        exists_eq_left, infinite, true_and, not_true, false_and, or_false, Except.error.injEq]
      exact eq_comm
    · have bad : Unconvertible given f := by
        refine ⟨j, value, fun x converts => ?_⟩
        cases read.symm.trans (FieldKind.read?_eq_some.mpr converts)
      have finite : ¬ Infinite given f := by
        rintro ⟨number, negative, found⟩
        cases value.symm.trans found
        rw [number] at read
        cases read
      simp only [readFields, value, read, FirstSuch.cons_of_pos bad, exists_eq_left, finite,
        false_and, not_false_iff, true_and, false_or, Except.error.injEq]
      exact eq_comm
    · have fine : ¬ Unconvertible given f := by
        rintro ⟨j', found, never⟩
        cases value.symm.trans found
        exact never x (FieldKind.read?_eq_some.mp read)
      simp only [readFields, value, read, map_eq_error, ih, FirstSuch.cons_of_neg fine]

end Entry

/-! ## Entries of a label -/

namespace Owner

/-- A tag stands for the owner whose name it is. -/
lemma ofTag?_eq_some : ofTag? j = some o ↔ j = .str o.name := by
  cases j with
  | str s => exact ofName?_eq_some.trans (by simp)
  | null | bool | int | float | arr | obj => exact ⟨nofun, nofun⟩

end Owner

namespace Entry

/-- What an entry is refused for: that it is missing or belongs to no owner, or the first of its
fields whose value cannot be converted. -/
inductive Refused : Option Entry → Failure → Prop where
  | missing : Refused none (.unrecognizedOwner .null)
  | stranger {entry : Entry} :
    (∀ o : Owner, entry.tag ≠ .str o.name) → Refused (some entry) (.unrecognizedOwner entry.tag)
  | field {entry : Entry} {o : Owner} {f : Field} : entry.tag = .str o.name →
    FirstSuch (Unconvertible entry.fields) o.fields f →
    Refused (some entry) (.incompleteInput [f.name])

/-- Whether the first field of an entry whose value cannot be converted is given an infinite
number. -/
inductive Overflows : Option Entry → Prop where
  | field {entry : Entry} {o : Owner} {f : Field} : entry.tag = .str o.name →
    FirstSuch (Unconvertible entry.fields) o.fields f → Infinite entry.fields f →
    Overflows (some entry)

/-- Whether an entry is read as a model: each field that it gives a value to, and no other, has
what the value is converted to. -/
inductive Decodes : Option Entry → Model → Prop where
  | entry {entry : Entry} {m : Model} : entry.tag = .str m.owner.name →
    (∀ f ∈ m.owner.fields, Option.Rel f.kind.Converts (Keyed.get? f.name entry.fields)
      (Keyed.get? f.name m.supplied)) →
    (Keyed.keys m.supplied).Sublist (m.owner.fields.map Field.name) → Decodes (some entry) m

variable {entry : Option Entry} {entries : List (Option Entry)} {m : Model}

/-- An entry is bad if there is something that it is refused for. -/
def Bad (entry : Option Entry) : Prop := ∃ e, Refused entry e

/-- An entry with an owner is refused for the first field that cannot be converted. -/
lemma refused_iff {entry : Entry} (named : entry.tag = .str o.name) : Refused (some entry) e ↔
    ∃ f, FirstSuch (Unconvertible entry.fields) o.fields f ∧ e = .incompleteInput [f.name] := by
  constructor
  · intro h
    cases h with
    | stranger strange => exact absurd named (strange o)
    | @field _ o' f named' first =>
      obtain rfl : o' = o := Owner.name_injective (Json.str.inj (named'.symm.trans named))
      exact ⟨f, first, rfl⟩
  · rintro ⟨f, first, rfl⟩
    exact .field named first

/-- An entry with an owner overflows if an infinite number is the first value that cannot be
converted. -/
lemma overflows_iff {entry : Entry} (named : entry.tag = .str o.name) : Overflows (some entry) ↔
    ∃ f, FirstSuch (Unconvertible entry.fields) o.fields f ∧ Infinite entry.fields f := by
  constructor
  · rintro @⟨_, o', f, named', first, infinite⟩
    obtain rfl : o' = o := Owner.name_injective (Json.str.inj (named'.symm.trans named))
    exact ⟨f, first, infinite⟩
  · rintro ⟨f, first, infinite⟩
    exact .field named first infinite

/-- An entry that overflows is a bad one. -/
lemma Overflows.bad (h : Overflows entry) : Bad entry := by
  cases h with
  | field named first => exact ⟨_, .field named first⟩

/-- Reading an entry fails with what it is refused for, unless it breaks off. -/
lemma read_eq_error : read entry = .error e ↔
    Overflows entry ∧ e = .overflow ∨ ¬ Overflows entry ∧ Refused entry e := by
  rcases entry with _ | entry
  · have finite : ¬ Overflows none := nofun
    simp only [finite, false_and, not_false_iff, true_and, false_or]
    constructor
    · intro h
      cases h
      exact .missing
    · intro refused
      cases refused
      rfl
  rcases tag : Owner.ofTag? entry.tag with _ | o
  · have strange : ∀ o : Owner, entry.tag ≠ .str o.name := fun o named =>
      nomatch tag.symm.trans (Owner.ofTag?_eq_some.mpr named)
    have finite : ¬ Overflows (some entry) := by
      rintro ⟨named, -, -⟩
      exact strange _ named
    simp only [read, tag, finite, false_and, not_false_iff, true_and, false_or]
    constructor
    · intro h
      cases h
      exact .stranger strange
    · intro refused
      cases refused with
      | stranger => rfl
      | field named => exact absurd named (strange _)
  · have named := Owner.ofTag?_eq_some.mp tag
    simp only [read, tag, map_eq_error, readFields_eq_error, overflows_iff named, refused_iff named]
    constructor
    · rintro ⟨f, first, ⟨infinite, rfl⟩ | ⟨finite, rfl⟩⟩
      · exact .inl ⟨⟨f, first, infinite⟩, rfl⟩
      · refine .inr ⟨?_, f, first, rfl⟩
        rintro ⟨f', first', infinite⟩
        exact finite (first.unique first' ▸ infinite)
    · rintro (⟨⟨f, first, infinite⟩, rfl⟩ | ⟨finite, f, first, rfl⟩)
      · exact ⟨f, first, .inl ⟨infinite, rfl⟩⟩
      · exact ⟨f, first, .inr ⟨fun infinite => finite ⟨f, first, infinite⟩, rfl⟩⟩

/-- The entries that cannot be read are the bad ones. -/
lemma bad_iff : Bad entry ↔ ∃ e, read entry = .error e := by
  simp only [read_eq_error]
  by_cases overflows : Overflows entry
  · exact ⟨fun _ => ⟨_, .inl ⟨overflows, rfl⟩⟩, fun _ => overflows.bad⟩
  · simp only [overflows, false_and, not_false_iff, true_and, false_or]
    rfl

/-- An entry that is read decodes to its model. -/
lemma decodes_of_read (h : read entry = .ok m) : Decodes entry m := by
  obtain ⟨entry, rfl, owner, fieldsRead⟩ := reads_of_read h
  have named := Owner.ofTag?_eq_some.mp (tag_of_read h)
  obtain ⟨rel, sub⟩ := readFields_rel fieldsRead m.owner.nodup_names
  simp only [FieldKind.read?_eq_some] at rel
  exact .entry named rel sub

/-- Entries are read up to the first bad one. -/
lemma readAll_eq_error :
    readAll entries = .error e ↔ ∃ x, FirstSuch Bad entries x ∧ read x = .error e := by
  induction entries with
  | nil => exact ⟨nofun, nofun⟩
  | cons y rest ih =>
    rcases first : read y with e' | m
    · have bad : Bad y := bad_iff.mpr ⟨e', first⟩
      rw [readAll, first]
      simp only [FirstSuch.cons_of_pos bad, exists_eq_left, first, Except.error.injEq]
      exact Iff.of_eq (Except.error.injEq e' e)
    · have fine : ¬ Bad y := fun bad => by
        obtain ⟨e', failed⟩ := bad_iff.mp bad
        cases failed.symm.trans first
      simp only [FirstSuch.cons_of_neg fine, ← ih, readAll, first, ok_bind]
      exact map_eq_error

end Entry

/-! ## Labels -/

namespace Label

/-- What a label is refused for: that it is empty, or what its first bad entry is refused for. -/
inductive Refused (l : Label) : Failure → Prop where
  | empty : l.entries = [] → Refused l (.unrecognizedOwner .null)
  | entry {x : Option Entry} {e : Failure} :
    FirstSuch Entry.Bad l.entries x → Entry.Refused x e → Refused l e

/-- Whether the reading of a label breaks off at its first bad entry. -/
inductive Overflows (l : Label) : Prop where
  | entry {x : Option Entry} : FirstSuch Entry.Bad l.entries x → Entry.Overflows x → Overflows l

variable {l : Label}

/-- A label fails where its first bad entry overflows, or else as that entry is refused. -/
lemma read_eq_error : l.read = .error e ↔
    l.Overflows ∧ e = .overflow ∨ ¬ l.Overflows ∧ l.Refused e := by
  by_cases empty : l.entries = []
  · have finite : ¬ l.Overflows := by
      rintro ⟨first, -⟩
      rw [empty] at first
      cases first
    simp only [Label.read, empty, finite, false_and, not_false_iff, true_and, false_or]
    constructor
    · intro h
      cases h
      exact .empty empty
    · intro refused
      cases refused with
      | empty => rfl
      | entry first =>
        rw [empty] at first
        cases first
  have read : l.read = Entry.readAll l.entries := by
    unfold Label.read
    split
    · contradiction
    · rfl
  rw [read, Entry.readAll_eq_error]
  simp only [Entry.read_eq_error]
  constructor
  · rintro ⟨x, first, ⟨overflows, rfl⟩ | ⟨finite, refused⟩⟩
    · exact .inl ⟨.entry first overflows, rfl⟩
    · refine .inr ⟨?_, .entry first refused⟩
      rintro ⟨first', overflows⟩
      exact finite (first.unique first' ▸ overflows)
  · rintro (⟨⟨first, overflows⟩, rfl⟩ | ⟨finite, refused⟩)
    · exact ⟨_, first, .inl ⟨overflows, rfl⟩⟩
    · cases refused with
      | empty none => contradiction
      | entry first refused =>
        exact ⟨_, first, .inr ⟨fun overflows => finite (.entry first overflows), refused⟩⟩

end Label

namespace LabelReader

/-- Unless its reading breaks off, a label is read without failure or fails with what it is refused
for. After a failure the models are those of before, and otherwise there is one for each entry. -/
theorem fails_as_refused (r : LabelReader) :
    (¬ r.label.Overflows → ∀ e, r.read.1 = .error e ↔ r.label.Refused e) ∧
    (r.label.Overflows → r.read.1 = .error .overflow) ∧
    (∀ e, r.read.1 = .error e → r.read.2 = r) ∧
    ∀ ms, r.read.1 = .ok ms → r.read.2 = { r with models := ms } ∧
      List.Forall₂ Entry.Decodes r.label.entries ms := by
  have error : ∀ e, r.read.1 = .error e ↔ r.label.read = .error e := by
    intro e
    unfold LabelReader.read
    split <;> rename_i read <;> simp [read]
  have ok : ∀ ms, r.read.1 = .ok ms ↔ r.label.read = .ok ms := by
    intro ms
    unfold LabelReader.read
    split <;> rename_i read <;> simp [read]
  refine ⟨fun finite e => ?_, fun overflows => ?_, fun e failed => ?_, fun ms read => ?_⟩
  · rw [error, Label.read_eq_error]
    simp [finite]
  · rw [error, Label.read_eq_error]
    simp [overflows]
  · rw [error] at failed
    simp only [LabelReader.read, failed]
  · rw [ok] at read
    refine ⟨by simp only [LabelReader.read, read], ?_⟩
    exact (Label.read_eq_ok.mp read).2.imp fun _ _ => Entry.decodes_of_read

/-- A reader with a model from before, for a label with two bad entries behind a good one. -/
def sample : LabelReader where
  label := .many
    [some ⟨.str "proxy-downstream", [("mask", .str "32"), ("ip", .null)]⟩,
     some ⟨.str "provider", [("is_register", .str "yes"), ("id", .arr [])]⟩, none]
  models := [⟨.identity, [("id", .text "1")]⟩]

/-- The sample label is refused for the truth value of its second entry. -/
theorem truth_value_refused : sample.label.Refused (.incompleteInput ["is_register"]) ∧
    sample.read = (.error (.incompleteInput ["is_register"]), sample) := by
  obtain ⟨refused, overflow, kept, -⟩ := fails_as_refused sample
  have failed : sample.read.1 = .error (.incompleteInput ["is_register"]) := rfl
  have finite : ¬ sample.label.Overflows := fun overflows => by
    cases failed.symm.trans (overflow overflows)
  exact ⟨(refused finite _).mp failed, Prod.ext failed (kept _ failed)⟩

/-- An entry whose mask is an infinite number. -/
def infiniteMask : Entry := ⟨.str "proxy-downstream", [("mask", .float (.infinite false))]⟩

/-- The infinite mask is what a label is to be refused for, but its reading fails as an operation
that meets a number too large for it. -/
theorem infinite_mask_breaks_off : (Label.one infiniteMask).Refused (.incompleteInput ["mask"]) ∧
    ¬ (Label.one infiniteMask).Refused .overflow ∧
    (ofLabel (.one infiniteMask)).read.1 = .error .overflow := by
  have absent : ∀ f : Field, Keyed.get? f.name infiniteMask.fields = none →
      ¬ Entry.Unconvertible infiniteMask.fields f :=
    fun f none ⟨j, found, _⟩ => nomatch none.symm.trans found
  have infinite : Entry.Infinite infiniteMask.fields ⟨"mask", .number⟩ := ⟨rfl, false, rfl⟩
  have mask : FirstSuch (Entry.Unconvertible infiniteMask.fields) Owner.egress.fields
      ⟨"mask", .number⟩ :=
    .there (absent _ rfl) <| .there (absent _ rfl) <| .there (absent _ rfl) <|
      .here infinite.unconvertible
  have refused : Entry.Refused (some infiniteMask) (.incompleteInput ["mask"]) :=
    .field (f := ⟨"mask", .number⟩) rfl mask
  refine ⟨.entry (.here ⟨_, refused⟩) refused, fun other => ?_, rfl⟩
  cases other with
  | entry _ refused => cases refused

end LabelReader

end ProxyFleet
