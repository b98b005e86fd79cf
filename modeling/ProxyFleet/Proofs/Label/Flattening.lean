import ProxyFleet.Proofs.Label.Rereading

/-!
# Labels of one owner

Flat labels are written in two ways: those of all entries, and those of the first entry of one
owner. The entries of a label may repeat an owner, and what a later one writes replaces what an
earlier one wrote. So the labels of an owner are the same either way exactly when its first entry
has the last word on each of its fields.
-/

namespace ProxyFleet

variable {l : Label} {m : Model} {ms : List Model} {o : Owner} {f : Field} {p key name t : Text}
  {excluded : List Text} {labels : List (Text × Text)}

/-! ## What entries supply -/

/-- The text of a field, if it was supplied. -/
def Model.given? (m : Model) (name : Text) : Option Text :=
  (Keyed.get? name m.supplied).map Setting.toText

/-- The text that the first entry of an owner supplies for a field. -/
def Model.firstText? (ms : List Model) (owner : Owner) (name : Text) : Option Text :=
  (ms.find? fun m => m.owner = owner).bind (·.given? name)

/-- The text that the last entry of an owner to supply a field supplies for it. -/
def Model.lastText? (ms : List Model) (owner : Owner) (name : Text) : Option Text :=
  ms.reverse.findSome? fun m => if m.owner = owner then m.given? name else none

namespace Model

/-- A field keeps its default where no value is given for it. -/
lemma isDefault_eq (known : name ∈ m.owner.fields.map Field.name) :
    m.isDefault name = (m.given? name).isNone := by
  cases supplied : Keyed.get? name m.supplied <;>
    simp [isDefault, defaults, known, Keyed.has, given?, supplied]

/-- A given value is the one that is shown. -/
lemma WellFormed.text_of_given (wf : m.WellFormed) (h : m.given? name = some t) :
    m.text name = t := by
  obtain ⟨x, supplied, rfl⟩ := Option.map_eq_some_iff.mp h
  exact wf.text_eq (Keyed.mem_of_get? supplied)

/-- A value is given for a field where it does not keep its default. -/
lemma WellFormed.given?_eq (wf : m.WellFormed) (known : name ∈ m.owner.fields.map Field.name) :
    m.given? name = if m.isDefault name then none else some (m.text name) := by
  rw [isDefault_eq known]
  cases given : m.given? name with
  | none => rfl
  | some t => rw [wf.text_of_given given]; rfl

/-- A field that the first entry of an owner supplies is supplied by a last one. -/
lemma exists_lastText? (h : firstText? ms o name = some t) :
    ∃ t', lastText? ms o name = some t' := by
  obtain ⟨m, found, given⟩ := Option.bind_eq_some_iff.mp h
  rw [← Option.isSome_iff_exists, lastText?, List.findSome?_isSome_iff]
  refine ⟨m, List.mem_reverse.mpr (List.mem_of_find?_eq_some found), ?_⟩
  rw [if_pos (by simpa using List.find?_some found), given]
  rfl

/-- What entries of an owner give is looked for among these alone. -/
lemma findSome?_owner_eq {α : Type} (g : Model → Option α) (ms : List Model) :
    (ms.findSome? fun m => if m.owner = o then g m else none) =
      (ms.filter fun m => m.owner = o).findSome? g := by
  induction ms with
  | nil => rfl
  | cons m rest ih => by_cases owner : m.owner = o <;> simp [List.findSome?_cons, owner, ih]

/-- Of an owner with one entry the first word is the last. -/
lemma lastText?_eq_firstText? (single : (ms.filter fun m => m.owner = o).length ≤ 1) :
    lastText? ms o name = firstText? ms o name := by
  rw [lastText?, findSome?_owner_eq, List.filter_reverse, firstText?, ← List.head?_filter]
  generalize ms.filter (fun m => m.owner = o) = entries at single
  rcases entries with _ | ⟨e, _ | ⟨e', rest⟩⟩
  · rfl
  · simp
  · simp at single

/-! ## Labels of a field -/

/-- A field has the label that its owner's model gives it. -/
lemma WellFormed.get?_flat_field (wf : m.WellFormed) (p : Text) (excluded : List Text)
    (known : f ∈ o.fields) : Keyed.get? (fieldKey p o f.name) (m.flat p excluded) =
      if m.owner = o ∧ f.name ∉ excluded then m.given? f.name else none := by
  by_cases own : m.owner = o ∧ f.name ∉ excluded
  · obtain ⟨rfl, kept⟩ := own
    rw [if_pos ⟨rfl, kept⟩, wf.get?_flat p known kept, given?]
  · rw [if_neg own, Keyed.get?_eq_none]
    intro mem
    obtain ⟨⟨_, v⟩, mem, key⟩ := List.mem_map.mp mem
    obtain ⟨q, supplied, kept, rfl, -⟩ := mem_flat.mp mem
    obtain ⟨f', known', name, -⟩ := wf.typed q supplied
    obtain ⟨rfl, same⟩ := fieldKey_inj known' known ((congrArg _ name).trans key)
    exact own ⟨rfl, same ▸ name ▸ kept⟩

/-- Of the labels of all entries, that of a field has the last word on it. -/
lemma get?_flatAll_field (wf : ∀ m ∈ ms, m.WellFormed) (p : Text) (excluded : List Text)
    (known : f ∈ o.fields) : Keyed.get? (fieldKey p o f.name) (flatAll p excluded ms) =
      if f.name ∈ excluded then none else lastText? ms o f.name := by
  have each : ∀ m ∈ ms.reverse, Keyed.get? (fieldKey p o f.name) (m.flat p excluded) =
      if m.owner = o ∧ f.name ∉ excluded then m.given? f.name else none :=
    fun m mem => (wf m (List.mem_reverse.mp mem)).get?_flat_field p excluded known
  rw [get?_flatAll wf, ← List.head?_filterMap, List.filterMap_congr each, List.head?_filterMap]
  by_cases out : f.name ∈ excluded <;> simp [out, lastText?]

end Model

/-! ## Labels of an owner -/

/-- Whether a key goes on behind the prefix with the name of an owner. -/
def OfOwner (keyPrefix : Text) (owner : Owner) (key : Text) : Prop :=
  (keyBase keyPrefix ++ "." ++ owner.name ++ "." : Text) <+: key

/-- Whether a key is one of an owner can be decided. -/
instance (keyPrefix : Text) (owner : Owner) (key : Text) :
    Decidable (OfOwner keyPrefix owner key) :=
  inferInstanceAs (Decidable (_ <+: _))

/-- The labels whose keys are those of an owner. -/
def ownedLabels (keyPrefix : Text) (owner : Owner) (labels : List (Text × Text)) :
    List (Text × Text) :=
  labels.filter fun q => OfOwner keyPrefix owner q.1

/-- The key of a field is one of its owner and of no other. -/
lemma ofOwner_fieldKey {o' : Owner} : OfOwner p o (fieldKey p o' name) ↔ o' = o := by
  unfold OfOwner fieldKey
  constructor
  · rintro ⟨rest, eq⟩
    simp only [List.append_assoc] at eq
    have eq : o.name ++ .char '.' :: rest = o'.name ++ .char '.' :: Field.hyphenated name :=
      List.append_cancel_left (List.append_cancel_left eq)
    have broken := Text.breakAt_append (t := rest) o.name_plain.2
    rw [eq, Text.breakAt_append o'.name_plain.2] at broken
    exact Owner.name_injective (Prod.mk.inj broken).1
  · rintro rfl
    exact List.prefix_append _ _

/-- Among the labels of an owner its own keys are found and no others. -/
lemma get?_ownedLabels (p : Text) (o : Owner) (key : Text) (labels : List (Text × Text)) :
    Keyed.get? key (ownedLabels p o labels) =
      if OfOwner p o key then Keyed.get? key labels else none :=
  Keyed.get?_filter (OfOwner p o) key labels

/-- Whether two lists of labels are the same map. -/
def SameLabels (labels labels' : List (Text × Text)) : Prop :=
  ∀ key, Keyed.get? key labels = Keyed.get? key labels'

/-- The labels of the first entry of an owner and the owner's among those of all entries differ at
most in the fields of the owner. -/
lemma sameLabels_iff (wf : ∀ m ∈ ms, m.WellFormed)
    (found : ms.find? (fun m => m.owner = o) = some m) :
    SameLabels (m.flat p excluded) (ownedLabels p o (Model.flatAll p excluded ms)) ↔
      ∀ f ∈ o.fields, f.name ∉ excluded →
        Model.firstText? ms o f.name = Model.lastText? ms o f.name := by
  have first : m.WellFormed := wf m (List.mem_of_find?_eq_some found)
  have owner : m.owner = o := by simpa using List.find?_some found
  have field : ∀ f ∈ o.fields, (Keyed.get? (fieldKey p o f.name) (m.flat p excluded) =
      Keyed.get? (fieldKey p o f.name) (ownedLabels p o (Model.flatAll p excluded ms)) ↔
        (f.name ∉ excluded → Model.firstText? ms o f.name = Model.lastText? ms o f.name)) := by
    intro f known
    rw [first.get?_flat_field p excluded known, get?_ownedLabels, if_pos (ofOwner_fieldKey.mpr rfl),
      Model.get?_flatAll_field wf p excluded known, Model.firstText?, found]
    by_cases out : f.name ∈ excluded <;> simp [out, owner]
  constructor
  · exact fun same f known => (field f known).mp (same _)
  · intro words key
    by_cases named : ∃ f ∈ o.fields, key = fieldKey p o f.name
    · obtain ⟨f, known, rfl⟩ := named
      exact (field f known).mpr (words f known)
    · -- neither of the two has a label under a key that is not the key of a field of the owner
      have left : Keyed.get? key (m.flat p excluded) = none := by
        refine Keyed.get?_eq_none.mpr fun mem => named ?_
        rw [← owner]
        exact first.exists_of_mem_flat mem
      have right : Keyed.get? key (ownedLabels p o (Model.flatAll p excluded ms)) = none := by
        rw [get?_ownedLabels]
        split
        case isFalse => rfl
        case isTrue owned =>
          apply Option.eq_none_iff_forall_ne_some.mpr
          intro v written
          obtain ⟨m', -, f, known, -, -, -, rfl, -⟩ := Model.exists_of_get?_flatAll wf written
          obtain rfl := ofOwner_fieldKey.mp owned
          exact named ⟨f, known, rfl⟩
      rw [left, right]

/-- The flat labels of all entries are written unless a number among them is too long, and then
those of an owner with an entry are written, too. They are the owner's among all exactly when, on
every field that is not left out, its first entry has the last word, as it does when it is the only
one. -/
theorem owner_labels_agree_iff (p : Text) (excluded : List Text) (read : l.read = .ok ms)
    (present : Model.has ms o = true) :
    ((∃ all, Model.writeAll p excluded ms = .ok all) ↔ ∀ m ∈ ms, m.Writes excluded) ∧
    ∀ all, Model.writeAll p excluded ms = .ok all →
      ∃ labels, Model.writeOf p excluded ms o = .ok labels ∧
        (SameLabels labels (ownedLabels p o all) ↔
          ∀ f ∈ o.fields, f.name ∉ excluded →
            Model.firstText? ms o f.name = Model.lastText? ms o f.name) ∧
        ((ms.filter fun m => m.owner = o).length ≤ 1 →
          SameLabels labels (ownedLabels p o all)) := by
  refine ⟨by simp only [Model.writeAll_eq_ok, exists_and_left, exists_eq', and_true], ?_⟩
  intro all written
  obtain ⟨writes, rfl⟩ := Model.writeAll_eq_ok.mp written
  have wf := Label.wellFormed_of_read read
  obtain ⟨m, found⟩ : ∃ m, ms.find? (fun m => m.owner = o) = some m := by
    rw [← Option.isSome_iff_exists, List.isSome_find?]
    exact present
  have agree : SameLabels (m.flat p excluded) (ownedLabels p o (Model.flatAll p excluded ms)) ↔ _ :=
    sameLabels_iff wf found
  refine ⟨m.flat p excluded, ?_, agree, fun single => agree.mpr fun f _ _ => ?_⟩
  · have first : Model.find ms o = .ok m := by rw [Model.find, found]
    refine Model.writeOf_eq_ok.mpr ⟨⟨m, first, writes m (List.mem_of_find?_eq_some found)⟩, ?_⟩
    exact map_eq_ok.mpr ⟨m, first, rfl⟩
  · exact (Model.lastText?_eq_firstText? single).symm

/-- A label that repeats an identity, to add a passphrase. -/
def repeatedLabel : Label :=
  .many
    [some ⟨.str "identity", [("id", .str "1"), ("identity", .str "0xab")]⟩,
     some ⟨.str "provider", [("id", .str "2")]⟩,
     some ⟨.str "identity", [("passphrase", .str "secret"), ("id", .int 1)]⟩]

/-- Without the passphrase, the labels of the repeated identity are those of its first entry. -/
theorem repeated_labels_agree : ∃ ms all labels, repeatedLabel.read = .ok ms ∧
    Model.writeAll "fleet" ["passphrase"] ms = .ok all ∧
    Model.writeOf "fleet" ["passphrase"] ms .identity = .ok labels ∧
    SameLabels labels (ownedLabels "fleet" .identity all) ∧
    (ms.filter fun m => m.owner = .identity).length = 2 := by
  have read : repeatedLabel.read = .ok _ := rfl
  obtain ⟨-, agree⟩ := owner_labels_agree_iff (o := .identity) "fleet" ["passphrase"] read rfl
  obtain ⟨labels, written, agree, -⟩ := agree _ rfl
  exact ⟨_, _, labels, read, rfl, written, agree.mpr (by decide), rfl⟩

/-- A label with two identities. -/
def twoIdentities : Label :=
  .many
    [some ⟨.str "identity", [("id", .str "1")]⟩, some ⟨.str "identity", [("id", .str "2")]⟩]

/-- Of two identities the labels of all entries name the second, and those of the owner name the
first. -/
theorem second_entry_left_out : ∃ ms all labels, twoIdentities.read = .ok ms ∧
    Model.writeAll "fleet" [] ms = .ok all ∧ Model.writeOf "fleet" [] ms .identity = .ok labels ∧
    ¬ SameLabels labels (ownedLabels "fleet" .identity all) ∧
    Keyed.get? (fieldKey "fleet" .identity "id") labels = some ("1" : Text) ∧
    Keyed.get? (fieldKey "fleet" .identity "id") all = some ("2" : Text) := by
  refine ⟨_, _, _, rfl, rfl, rfl, fun same => ?_, by decide, by decide⟩
  exact absurd (same (fieldKey "fleet" .identity "id")) (by decide)

end ProxyFleet
