import Mathlib.Data.List.Nodup
import ProxyFleet.Label.Flat
import ProxyFleet.Proofs.Text.Splitting

/-!
# Keys of label fields

Which keys are read as the key of a field, and that the key of a field is read as that field.
-/

namespace ProxyFleet

variable {p key s : Text} {o o' : Owner} {f f' : Field}

namespace Field

/-- The underscores of a name can be found again behind its hyphens. -/
lemma underscored_hyphenated {name : Text} (h : .char '-' ∉ name) :
    underscored (hyphenated name) = name :=
  Text.replace_replace h

/-- Without underscores, hyphens are restored. -/
lemma hyphenated_underscored {part : Text} (h : .char '_' ∉ part) :
    hyphenated (underscored part) = part :=
  Text.replace_replace h

end Field

namespace Owner

/-- The name of an owner is a part of a key. -/
lemma name_plain (o : Owner) : o.name ≠ [] ∧ .char '.' ∉ o.name := by
  cases o <;> decide

/-- The name of a field is a part of a key, and has no hyphens. -/
lemma field_plain (h : f ∈ o.fields) :
    f.name ≠ [] ∧ .char '.' ∉ f.name ∧ .char '-' ∉ f.name := by
  have plain : ∀ f ∈ o.fields, f.name ≠ [] ∧ .char '.' ∉ f.name ∧ .char '-' ∉ f.name := by
    cases o <;> decide
  exact plain f h

/-- The fields of an owner have distinct names. -/
lemma nodup_names (o : Owner) : (o.fields.map Field.name).Nodup := by
  cases o <;> decide

/-- A field is known by its name. -/
lemma field_unique (h : f ∈ o.fields) (h' : f' ∈ o.fields) (eq : f.name = f'.name) : f = f' :=
  List.inj_on_of_nodup_map o.nodup_names h h' eq

/-- The name of an owner stands for it and for no other one. -/
lemma ofName?_eq_some : ofName? s = some o ↔ s = o.name := by
  constructor
  · intro h
    have found := List.find?_some h
    exact (beq_iff_eq.mp found).symm
  · rintro rfl
    cases o <;> decide

/-- An owner is known by its name. -/
lemma name_injective {o' : Owner} (h : o.name = o'.name) : o = o' :=
  Option.some.inj ((ofName?_eq_some.mpr rfl).symm.trans (ofName?_eq_some.mpr h))

end Owner

/-- Joined parts have a point between them. -/
lemma point_mem (a b : Text) : .char '.' ∈ a ++ "." ++ b :=
  List.mem_append_left _ (List.mem_append_right _ (by decide))

/-- What stands around the last point of a text is determined by the text. -/
lemma append_point_inj {a a' b b' : Text} (h : a ++ "." ++ b = a' ++ "." ++ b')
    (hb : .char '.' ∉ b) (hb' : .char '.' ∉ b') : a = a' ∧ b = b' := by
  rw [List.append_assoc, List.append_assoc] at h
  exact Text.append_cons_inj (h : a ++ .char '.' :: b = a' ++ .char '.' :: b') hb hb'

/-- The key of a field has no equals sign if the prefix has none. -/
lemma not_mem_equals_fieldKey (plain : .char '=' ∉ p) (known : f ∈ o.fields) :
    .char '=' ∉ fieldKey p o f.name := by
  have base : .char '=' ∉ keyBase p := by
    obtain ⟨tail, whole, -⟩ := Text.exists_stripEnd '.' p
    exact fun mem => plain (whole ▸ List.mem_append_left _ mem)
  have owner : .char '=' ∉ o.name := by cases o <;> decide
  have field : ∀ f ∈ o.fields, .char '=' ∉ Field.hyphenated f.name := by cases o <;> decide
  have point : .char '=' ∉ ("." : Text) := by decide
  have field := field f known
  simp only [fieldKey, List.mem_append, not_or]
  exact ⟨⟨⟨⟨base, point⟩, owner⟩, point⟩, field⟩

/-- A name with hyphens has neither points nor underscores. -/
lemma Owner.hyphenated_plain (h : f ∈ o.fields) :
    .char '.' ∉ Field.hyphenated f.name ∧ .char '_' ∉ Field.hyphenated f.name := by
  obtain ⟨-, single, -⟩ := field_plain h
  refine ⟨fun mem => ?_, Text.not_mem_replace (by decide)⟩
  rcases Text.mem_replace mem with hyphen | mem
  · exact absurd hyphen (by decide)
  · exact single mem

/-- The two parts around a single point. -/
lemma splitKey?_eq_some {x y : Text} :
    splitKey? s = some (x, y) ↔
      s = x ++ "." ++ y ∧ x ≠ [] ∧ .char '.' ∉ x ∧ y ≠ [] ∧ .char '.' ∉ y := by
  constructor
  · -- the key is broken at its first point, so only the second part has to be looked through
    intro h
    unfold splitKey? at h
    rcases broken : Text.breakAt '.' s with ⟨before, _ | ⟨c, after⟩⟩
    · simp [broken] at h
    · simp only [broken] at h
      split at h
      case isTrue => cases h
      case isFalse plain =>
        cases h
        obtain ⟨whole, first⟩ := Text.breakAt_eq_cons broken
        simp only [List.isEmpty_iff, List.contains_iff_mem, not_or] at plain
        obtain ⟨some₁, some₂, single⟩ := plain
        exact ⟨by rw [whole, List.append_assoc]; rfl, some₁, first, some₂, single⟩
  · rintro ⟨rfl, some₁, first, some₂, single⟩
    rw [List.append_assoc]
    have broken : Text.breakAt '.' (x ++ (("." : Text) ++ y)) = (x, .char '.' :: y) :=
      Text.breakAt_append first
    simp [splitKey?, broken, some₁, some₂, single]

/-- A key is read as a field when it has the prefix, the name of an owner, and one more part. -/
lemma readKey?_eq_some {name : Text} :
    readKey? p key = some (o, name) ↔ ∃ part, key = keyBase p ++ "." ++ o.name ++ "." ++ part ∧
      part ≠ [] ∧ .char '.' ∉ part ∧ Field.underscored part = name := by
  unfold readKey?
  constructor
  · intro h
    obtain ⟨rest, after, h⟩ := Option.bind_eq_some_iff.mp h
    obtain ⟨⟨x, part⟩, split, h⟩ := Option.bind_eq_some_iff.mp h
    obtain ⟨owner, known, h⟩ := Option.bind_eq_some_iff.mp h
    cases h
    obtain rfl := Owner.ofName?_eq_some.mp known
    obtain ⟨rfl, -, -, some₂, single⟩ := splitKey?_eq_some.mp split
    refine ⟨part, ?_, some₂, single, rfl⟩
    rw [← Text.after?_eq_some.mp after]
    simp only [List.append_assoc]
  · rintro ⟨part, rfl, some₂, single, rfl⟩
    have after : Text.after? (keyBase p ++ ".") (keyBase p ++ "." ++ o.name ++ "." ++ part) =
        some (o.name ++ "." ++ part) := Text.after?_eq_some.mpr (by simp only [List.append_assoc])
    obtain ⟨some₁, first⟩ := o.name_plain
    have split := splitKey?_eq_some.mpr
      ⟨(rfl : o.name ++ "." ++ part = _), some₁, first, some₂, single⟩
    rw [after]
    simp only [Option.bind_eq_bind, Option.bind_some, split, Owner.ofName?_eq_some.mpr rfl]
    rfl

/-- The key of a field is read back. -/
lemma readKey?_fieldKey (p : Text) (h : f ∈ o.fields) :
    readKey? p (fieldKey p o f.name) = some (o, f.name) := by
  obtain ⟨some₂, -, plain⟩ := Owner.field_plain h
  exact readKey?_eq_some.mpr ⟨Field.hyphenated f.name, rfl, Text.replace_ne_nil some₂,
    (Owner.hyphenated_plain h).1, Field.underscored_hyphenated plain⟩

/-- Different fields have different keys. -/
lemma fieldKey_inj (h : f ∈ o.fields) (h' : f' ∈ o'.fields)
    (eq : fieldKey p o f.name = fieldKey p o' f'.name) : o = o' ∧ f.name = f'.name := by
  have same := (readKey?_fieldKey p h).symm.trans (eq ▸ readKey?_fieldKey p h')
  exact Prod.mk.inj (Option.some.inj same)

/-- Whether no key of a field-like form `<prefix>.x.y` has an underscore in its last part. -/
def Hyphenated (keyPrefix : Text) (keys : List Text) : Prop :=
  ∀ x y : Text, x ≠ [] → .char '.' ∉ x → y ≠ [] → .char '.' ∉ y →
    keyBase keyPrefix ++ "." ++ x ++ "." ++ y ∈ keys → .char '_' ∉ y

/-- Where no underscores occur only the key of a field is read as that field. -/
lemma Hyphenated.eq_fieldKey {keys : List Text} (h : Hyphenated p keys) (mem : key ∈ keys)
    {name : Text} (read : readKey? p key = some (o, name)) : key = fieldKey p o name := by
  obtain ⟨part, rfl, some₂, single, rfl⟩ := readKey?_eq_some.mp read
  obtain ⟨some₁, first⟩ := o.name_plain
  have plain := h o.name part some₁ first some₂ single mem
  rw [fieldKey, Field.hyphenated_underscored plain]

end ProxyFleet
