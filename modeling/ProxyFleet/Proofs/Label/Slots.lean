import Mathlib.Data.List.Induction
import Mathlib.Data.List.Perm.Subperm
import Mathlib.Data.Set.Pairwise.List
import ProxyFleet.Proofs.Label.Regroup

/-!
# Fields of regrouped labels

Regrouping keeps one value for each field that labels are accepted for. The underscores of a field
become hyphens in its key, but an accepted key may have underscores all the same. So two labels may
be accepted for one field, and of these the last one counts.
-/

namespace ProxyFleet

variable {p key key' part part' name : Text} {o : Owner} {v : Json}
  {labels : List (Text × Json)} {groups : List (Owner × List (Text × Json))}

/-! ## Accepted keys -/

/-- Whether a key names a part of an owner behind the prefix. -/
def Names (keyPrefix key : Text) (owner : Owner) (part : Text) : Prop :=
  key = keyBase keyPrefix ++ "." ++ owner.name ++ "." ++ part ∧ part ≠ [] ∧ .char '.' ∉ part

/-- Whether two keys are accepted for one field: the last parts that they name of an owner are the
same but for hyphens and underscores. -/
def SameField (keyPrefix key key' : Text) : Prop :=
  ∃ owner part part', Names keyPrefix key owner part ∧ Names keyPrefix key' owner part' ∧
    Field.hyphenated part = Field.hyphenated part'

/-- The keys of labels that are accepted for a field. -/
def acceptedKeys (keyPrefix : Text) (labels : List (Text × Json)) : List Text :=
  (Keyed.keys labels).filter fun key => (readKey? keyPrefix key).isSome

namespace Field

/-- Underscores are the same for the hyphens that they come from. -/
lemma underscored_absorb (part : Text) : underscored (hyphenated part) = underscored part :=
  Text.replace_absorb _ _ part

/-- Hyphens are the same for the underscores that they come from. -/
lemma hyphenated_absorb (part : Text) : hyphenated (underscored part) = hyphenated part :=
  Text.replace_absorb _ _ part

/-- Parts differ in hyphens and underscores alone where they agree in underscores. -/
lemma hyphenated_eq_iff :
    hyphenated part = hyphenated part' ↔ underscored part = underscored part' := by
  constructor
  · intro same
    rw [← underscored_absorb, same, underscored_absorb]
  · intro same
    rw [← hyphenated_absorb, same, hyphenated_absorb]

end Field

/-- A key is read as a field where it names the field by one of its spellings. -/
lemma readKey?_iff_names : readKey? p key = some (o, name) ↔
    ∃ part, Names p key o part ∧ Field.underscored part = name := by
  rw [readKey?_eq_some]
  exact exists_congr fun part => by simp only [Names, and_assoc]

/-- Two keys are of the same field where they are read as the same slot. -/
lemma sameField_iff :
    SameField p key key' ↔ ∃ slot, readKey? p key = some slot ∧ readKey? p key' = some slot := by
  constructor
  · rintro ⟨o, part, part', names, names', same⟩
    refine ⟨(o, Field.underscored part), readKey?_iff_names.mpr ⟨part, names, rfl⟩, ?_⟩
    rw [Field.hyphenated_eq_iff.mp same]
    exact readKey?_iff_names.mpr ⟨part', names', rfl⟩
  · rintro ⟨⟨o, name⟩, read, read'⟩
    obtain ⟨part, names, rfl⟩ := readKey?_iff_names.mp read
    obtain ⟨part', names', same⟩ := readKey?_iff_names.mp read'
    exact ⟨o, part, part', names, names', Field.hyphenated_eq_iff.mpr same.symm⟩

/-- A key is the one that is written for its field unless it has an underscore in its last part. -/
lemma Names.eq_fieldKey_iff (h : Names p key o part) :
    key = fieldKey p o (Field.underscored part) ↔ .char '_' ∉ part := by
  rw [h.1, fieldKey, List.append_cancel_left_eq]
  constructor
  · intro same
    rw [same]
    exact Text.not_mem_replace (by decide)
  · exact fun plain => (Field.hyphenated_underscored plain).symm

/-! ## Values of groups -/

/-- Whether every owner has at most one group and every field at most one value in it. -/
structure Grouped (groups : List (Owner × List (Text × Json))) : Prop where
  owners : (Keyed.keys groups).Nodup
  fields : ∀ group ∈ groups, (Keyed.keys group.2).Nodup

/-- The values of groups, each with its owner and its field. -/
def placed (groups : List (Owner × List (Text × Json))) : List ((Owner × Text) × Json) :=
  groups.flatMap fun group => group.2.map fun q => ((group.1, q.1), q.2)

/-- One more label keeps the groups in shape. -/
lemma Grouped.regroupOne (h : Grouped groups) (label : Text × Json) :
    Grouped (regroupOne p groups label) := by
  refine ⟨nodup_regroupOne h.owners label, fun group mem => ?_⟩
  unfold ProxyFleet.regroupOne at mem
  split at mem
  · exact h.fields group mem
  · rename_i owner field _
    rcases Keyed.of_mem_put mem with rfl | mem
    · refine Keyed.nodup_put _ _ ?_
      cases found : Keyed.get? owner groups with
      | none => exact Keyed.nodup_nil
      | some fields => exact h.fields _ (Keyed.mem_of_get? found)
    · exact h.fields group mem

/-- Regrouping keeps owners and fields apart. -/
lemma Grouped.regroup (h : Grouped groups) (labels : List (Text × Json)) :
    Grouped (labels.foldl (ProxyFleet.regroupOne p) groups) := by
  induction labels generalizing groups with
  | nil => exact h
  | cons label rest ih => exact ih (h.regroupOne label)

/-- A placed value is the value of its slot. -/
lemma Grouped.mem_placed (h : Grouped groups) :
    ((o, name), v) ∈ placed groups ↔ slot? groups o name = some v := by
  simp only [placed, List.mem_flatMap, List.mem_map, slot?, Option.bind_eq_some_iff]
  constructor
  · rintro ⟨⟨o, fields⟩, grouped, ⟨name, v⟩, supplied, eq⟩
    cases eq
    exact ⟨fields, Keyed.get?_of_mem h.owners grouped,
      Keyed.get?_of_mem (h.fields _ grouped) supplied⟩
  · rintro ⟨fields, found, value⟩
    exact ⟨(o, fields), Keyed.mem_of_get? found, (name, v), Keyed.mem_of_get? value, rfl⟩

/-- No slot is placed twice. -/
lemma Grouped.nodup_placed (h : Grouped groups) : (Keyed.keys (placed groups)).Nodup := by
  have keys : Keyed.keys (placed groups) =
      groups.flatMap fun group => (Keyed.keys group.2).map (Prod.mk group.1) := by
    simp [Keyed.keys, placed, List.map_flatMap, Function.comp_def]
  rw [keys, List.nodup_flatMap]
  constructor
  · intro group grouped
    exact (h.fields group grouped).map (Prod.mk_right_injective group.1)
  · refine (List.pairwise_map.mp h.owners).imp fun other => ?_
    intro slot mem mem'
    obtain ⟨_, -, rfl⟩ := List.mem_map.mp mem
    obtain ⟨_, -, eq⟩ := List.mem_map.mp mem'
    exact other (congrArg Prod.fst eq).symm

/-! ## Values of a label -/

/-- The values of a label, each with the tag of its entry and the name of its field. -/
def Label.values (l : Label) : List ((Json × Text) × Json) :=
  (l.entries.filterMap id).flatMap fun entry => entry.fields.map fun q => ((entry.tag, q.1), q.2)

/-- The values of a label are those placed by its groups. -/
lemma values_ofFlat (p : Text) (labels : List (Text × Json)) : (Label.ofFlat p labels).values =
    (placed (labels.foldl (regroupOne p) [])).map fun q => ((.str q.1.1.name, q.1.2), q.2) := by
  rw [Label.values, Label.ofFlat_entries]
  simp [regroup, placed, List.map_flatMap, List.flatMap_map, Function.comp_def]

/-- Whether a value is that of the last label that is accepted for a field. -/
def LastOf (keyPrefix : Text) (labels : List (Text × Json)) (slot : Owner × Text) (v : Json) :
    Prop :=
  ∃ before key after, labels = before ++ (key, v) :: after ∧ readKey? keyPrefix key = some slot ∧
    ∀ label ∈ after, readKey? keyPrefix label.1 ≠ some slot

/-- The last label of a slot is the one that was added, or the last before it if that one is read
otherwise. -/
lemma lastOf_concat {label : Text × Json} {slot : Owner × Text} :
    LastOf p (labels ++ [label]) slot v ↔
      readKey? p label.1 = some slot ∧ label.2 = v ∨
      readKey? p label.1 ≠ some slot ∧ LastOf p labels slot v := by
  constructor
  · rintro ⟨before, key, after, eq, read, others⟩
    rcases List.eq_nil_or_concat' after with rfl | ⟨after, last, rfl⟩
    · obtain ⟨-, same⟩ := List.append_inj' eq rfl
      cases same
      exact .inl ⟨read, rfl⟩
    · rw [← List.cons_append, ← List.append_assoc] at eq
      obtain ⟨rfl, same⟩ := List.append_inj' eq rfl
      cases same
      exact .inr ⟨others _ (List.mem_append_right _ (List.mem_singleton_self _)), before, key,
        after, rfl, read, fun label mem => others label (List.mem_append_left _ mem)⟩
  · rintro (⟨read, rfl⟩ | ⟨other, before, key, after, rfl, read, others⟩)
    · exact ⟨labels, label.1, [], rfl, read, nofun⟩
    · refine ⟨before, key, after ++ [label], by simp, read, fun label' mem => ?_⟩
      rcases List.mem_append.mp mem with mem | mem
      · exact others label' mem
      · exact List.mem_singleton.mp mem ▸ other

/-- A field has the value of the last label that is accepted for it. -/
lemma slot?_eq_some_iff :
    slot? (labels.foldl (regroupOne p) []) o name = some v ↔ LastOf p labels (o, name) v := by
  induction labels using List.reverseRecOn with
  | nil => simp [slot?, Keyed.get?, LastOf]
  | append_singleton labels label ih =>
    rw [List.foldl_append, List.foldl_cons, List.foldl_nil, slot?_regroupOne, lastOf_concat, ← ih]
    by_cases read : readKey? p label.1 = some (o, name) <;> simp [read]

/-! ## Merged labels -/

/-- The fields that labels are accepted for, one for each label. -/
def acceptedFor (keyPrefix : Text) (labels : List (Text × Json)) : List (Owner × Text) :=
  (Keyed.keys labels).filterMap (readKey? keyPrefix)

/-- Every accepted key is accepted for one slot. -/
lemma length_acceptedFor (p : Text) (labels : List (Text × Json)) :
    (acceptedFor p labels).length = (acceptedKeys p labels).length := by
  rw [acceptedFor, acceptedKeys, List.length_filterMap_eq_countP, List.countP_eq_length_filter]

/-- The fields of labels with different keys are different unless two of the labels are merged. -/
lemma nodup_acceptedFor_iff (nodup : (Keyed.keys labels).Nodup) :
    (acceptedFor p labels).Nodup ↔
      ∀ key ∈ Keyed.keys labels, ∀ key' ∈ Keyed.keys labels, SameField p key key' → key = key' := by
  have symm : Std.Symm fun key key' => ¬ SameField p key key' := by
    refine ⟨fun key key' apart same => apart ?_⟩
    obtain ⟨slot, read, read'⟩ := sameField_iff.mp same
    exact sameField_iff.mpr ⟨slot, read', read⟩
  have apart : (acceptedFor p labels).Nodup ↔
      (Keyed.keys labels).Pairwise fun key key' => ¬ SameField p key key' := by
    rw [acceptedFor, List.Nodup, List.pairwise_filterMap]
    refine List.Pairwise.iff fun key key' => ?_
    rw [sameField_iff]
    constructor
    · rintro other ⟨slot, read, read'⟩
      exact other slot read slot read' rfl
    · rintro apart slot read _ read' rfl
      exact apart ⟨slot, read, read'⟩
  rw [apart, ← nodup.pairwise_coe]
  constructor
  · intro apart key mem key' mem' same
    by_contra other
    exact apart mem mem' other same
  · exact fun one key mem key' mem' other same => other (one key mem key' mem' same)

/-- One more label is accepted for its own slot. -/
lemma mem_acceptedFor_concat {label : Text × Json} {slot : Owner × Text} :
    slot ∈ acceptedFor p (labels ++ [label]) ↔
      readKey? p label.1 = some slot ∨ slot ∈ acceptedFor p labels := by
  simp [acceptedFor, Keyed.keys, or_comm]

/-- A slot has a last label where a label is accepted for it. -/
lemma exists_lastOf_iff {slot : Owner × Text} :
    (∃ v, LastOf p labels slot v) ↔ slot ∈ acceptedFor p labels := by
  induction labels using List.reverseRecOn with
  | nil => simp [LastOf, acceptedFor, Keyed.keys]
  | append_singleton labels label ih =>
    simp only [lastOf_concat, mem_acceptedFor_concat, ← ih]
    by_cases read : readKey? p label.1 = some slot <;> simp [read]

section

variable (p labels)

/-- Labels are grouped in shape. -/
lemma grouped_regroup : Grouped (labels.foldl (regroupOne p) []) :=
  Grouped.regroup ⟨Keyed.nodup_nil, by simp⟩ labels

/-- Just the fields that labels are accepted for have a value. -/
lemma mem_keys_placed (slot : Owner × Text) :
    slot ∈ Keyed.keys (placed (labels.foldl (regroupOne p) [])) ↔ slot ∈ acceptedFor p labels := by
  rw [← exists_lastOf_iff, Keyed.keys, List.mem_map]
  constructor
  · rintro ⟨⟨⟨o, name⟩, v⟩, mem, rfl⟩
    exact ⟨v, slot?_eq_some_iff.mp ((grouped_regroup p labels).mem_placed.mp mem)⟩
  · rintro ⟨v, last⟩
    exact ⟨(slot, v), (grouped_regroup p labels).mem_placed.mpr (slot?_eq_some_iff.mpr last), rfl⟩

/-- There are as many values as accepted labels exactly when the fields of these are different. -/
lemma length_placed_iff :
    (placed (labels.foldl (regroupOne p) [])).length = (acceptedFor p labels).length ↔
      (acceptedFor p labels).Nodup := by
  have nodup := (grouped_regroup p labels).nodup_placed
  have same := mem_keys_placed p labels
  have length : (placed (labels.foldl (regroupOne p) [])).length =
      (Keyed.keys (placed (labels.foldl (regroupOne p) []))).length := List.length_map _ |>.symm
  rw [length]
  constructor
  · intro eq
    have covered := List.subperm_of_subset nodup fun slot => (same slot).mp
    exact (covered.perm_of_length_le eq.ge).nodup_iff.mp nodup
  · intro different
    exact ((List.perm_ext_iff_of_nodup nodup different).mpr same).length_eq

end

/-- A key is accepted where it is among the labels and names a field. -/
lemma mem_acceptedKeys : key ∈ acceptedKeys p labels ↔
    key ∈ Keyed.keys labels ∧ ∃ o part, Names p key o part := by
  rw [acceptedKeys, List.mem_filter, Option.isSome_iff_exists]
  refine and_congr_right fun _ => ⟨?_, ?_⟩
  · rintro ⟨⟨o, name⟩, read⟩
    obtain ⟨part, names, -⟩ := readKey?_iff_names.mp read
    exact ⟨o, part, names⟩
  · rintro ⟨o, part, names⟩
    exact ⟨(o, Field.underscored part), readKey?_iff_names.mpr ⟨part, names, rfl⟩⟩

/-- Keys of one field are the same if neither has an underscore in its last part. -/
lemma SameField.eq (h : SameField p key key')
    (plain : ∀ o part, Names p key o part → .char '_' ∉ part)
    (plain' : ∀ o part, Names p key' o part → .char '_' ∉ part) : key = key' := by
  obtain ⟨o, part, part', names, names', same⟩ := h
  have part_eq := names.eq_fieldKey_iff.mpr (plain o part names)
  have part_eq' := names'.eq_fieldKey_iff.mpr (plain' o part' names')
  rw [part_eq, part_eq', Field.hyphenated_eq_iff.mp same]

/-- Regrouping labels gives each field that a label is accepted for one value, that of the last
such label. There are as many values as accepted labels exactly when no two of these are accepted
for one field, as when no accepted key has an underscore in its last part. Just then a key is the
one that is written for its field. -/
theorem fields_kept_iff (p : Text) (nodup : (Keyed.keys labels).Nodup) :
    (Keyed.keys (Label.ofFlat p labels).values).Nodup ∧
    (∀ tag name v, ((tag, name), v) ∈ (Label.ofFlat p labels).values ↔
      ∃ o : Owner, tag = .str o.name ∧ LastOf p labels (o, name) v) ∧
    (∀ key, key ∈ acceptedKeys p labels ↔
      key ∈ Keyed.keys labels ∧ ∃ o part, Names p key o part) ∧
    ((Label.ofFlat p labels).values.length = (acceptedKeys p labels).length ↔
      ∀ key ∈ Keyed.keys labels, ∀ key' ∈ Keyed.keys labels, SameField p key key' → key = key') ∧
    (∀ key o part, Names p key o part →
      (key = fieldKey p o (Field.underscored part) ↔ .char '_' ∉ part)) ∧
    ((∀ key ∈ Keyed.keys labels, ∀ o part, Names p key o part → .char '_' ∉ part) →
      (Label.ofFlat p labels).values.length = (acceptedKeys p labels).length) := by
  have count : (Label.ofFlat p labels).values.length = (acceptedKeys p labels).length ↔
      ∀ key ∈ Keyed.keys labels, ∀ key' ∈ Keyed.keys labels, SameField p key key' → key = key' := by
    rw [values_ofFlat, List.length_map, ← length_acceptedFor, length_placed_iff,
      nodup_acceptedFor_iff nodup]
  refine ⟨?_, fun tag name v => ?_, fun _ => mem_acceptedKeys, count,
    fun _ _ _ names => names.eq_fieldKey_iff, fun plain => count.mpr ?_⟩
  · have keys : Keyed.keys (Label.ofFlat p labels).values =
        (Keyed.keys (placed (labels.foldl (regroupOne p) []))).map
          fun slot => (Json.str slot.1.name, slot.2) := by
      simp [values_ofFlat, Keyed.keys, Function.comp_def]
    rw [keys]
    refine (grouped_regroup p labels).nodup_placed.map ?_
    rintro ⟨o, name⟩ ⟨o', name'⟩ eq
    obtain rfl : o = o' := Owner.name_injective (Json.str.inj (congrArg Prod.fst eq))
    obtain rfl : name = name' := congrArg Prod.snd eq
    rfl
  · rw [values_ofFlat, List.mem_map]
    constructor
    · rintro ⟨⟨⟨o, name⟩, v⟩, mem, eq⟩
      cases eq
      exact ⟨o, rfl, slot?_eq_some_iff.mp ((grouped_regroup p labels).mem_placed.mp mem)⟩
    · rintro ⟨o, rfl, last⟩
      exact ⟨((o, name), v),
        (grouped_regroup p labels).mem_placed.mpr (slot?_eq_some_iff.mpr last), rfl⟩
  · exact fun key mem key' mem' same => same.eq (plain key mem) (plain key' mem')

/-- Labels of which three are accepted, one of these for no field that its owner has. -/
def regularLabels : List (Text × Json) :=
  [("fleet.provider.user-identity", .str "0xab"), ("fleet.id", .int 1),
   ("fleet.provider.is-register", .bool true), ("fleet.stranger.user_identity", .str "0xcd"),
   ("fleet.proxy-upstream.zone", .str "")]

/-- No value of the three labels is lost, and an owner that does not exist has none. -/
theorem regular_labels_kept :
    (Label.ofFlat "fleet." regularLabels).values.length = 3 ∧
    ∀ name v, ((.str "stranger", name), v) ∉ (Label.ofFlat "fleet." regularLabels).values := by
  have nodup : (Keyed.keys regularLabels).Nodup := by decide +kernel
  obtain ⟨-, values, accepted, -, -, count⟩ := fields_kept_iff "fleet." nodup
  have three : (acceptedKeys "fleet." regularLabels).length = 3 := by decide +kernel
  refine ⟨three ▸ count fun key mem o part names underscore => ?_, fun name v mem => ?_⟩
  · -- the only key with an underscore names no owner
    have rare : ∀ key ∈ Keyed.keys regularLabels, .char '_' ∈ key →
        key ∉ acceptedKeys "fleet." regularLabels := by
      decide +kernel
    refine rare key mem ?_ ((accepted key).mpr ⟨mem, o, part, names⟩)
    rw [names.1]
    exact List.mem_append_right _ underscore
  · have strange : ∀ o : Owner, ("stranger" : Text) ≠ o.name := by
      intro o
      cases o <;> decide
    obtain ⟨o, tag, -⟩ := (values _ name v).mp mem
    exact strange o (Json.str.inj tag)

/-- Labels of two keys for one field. -/
def mergedLabels : List (Text × Json) :=
  [("fleet.provider.user-identity", .str "0xab"), ("fleet.provider.user_identity", .str "0xcd")]

/-- Both of the labels are accepted, but of their values only one is kept. -/
theorem user_identities_merged :
    (Keyed.keys mergedLabels).Nodup ∧
    acceptedKeys "fleet" mergedLabels = Keyed.keys mergedLabels ∧
    (acceptedKeys "fleet" mergedLabels).length = 2 ∧
    (Label.ofFlat "fleet" mergedLabels).values =
      [((Json.str "provider", ("user_identity" : Text)), Json.str "0xcd")] :=
  ⟨by decide +kernel, by decide +kernel, by decide +kernel, rfl⟩

end ProxyFleet
