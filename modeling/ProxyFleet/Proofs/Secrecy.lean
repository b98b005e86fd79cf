import ProxyFleet.Discovery
import ProxyFleet.Proofs.Creation.Retries
import ProxyFleet.Proofs.Creation.Secrecy

/-!
# Secrets stay where they belong

Reading the inventory does not depend on the secrets of a filter at all, and a creation depends on
those of its template in nothing but the environment of an identity container.
-/

namespace ProxyFleet.Discovery
open Docker Creation

/-- Whether two conditions are the same, or conditions on labels that differ at most in secrets. -/
inductive ConditionAlike : Condition → Condition → Prop where
  | same (c : Condition) : ConditionAlike c c
  | label {l l'} : LabelAlike l l' → ConditionAlike ⟨"label", .label l⟩ ⟨"label", .label l'⟩

/-- Whether two filters differ at most in the secrets of their conditions on labels. -/
structure FilterAlike (f f' : Filter) : Prop where
  others : f' = { f with conditions := f'.conditions }
  conditions : List.Forall₂ ConditionAlike f.conditions f'.conditions

/-- Alike conditions are on the same field. -/
lemma ConditionAlike.field {c c' : Condition} (h : ConditionAlike c c') : c.field = c'.field := by
  cases h <;> rfl

namespace FilterAlike

variable {f f' : Filter} {field : Text}

/-- Conditions that are kept by their fields are alike. -/
lemma filter (h : FilterAlike f f') (keep : Text → Bool) :
    List.Forall₂ ConditionAlike (f.conditions.filter fun c => keep c.field)
      (f'.conditions.filter fun c => keep c.field) := by
  have conditions := h.conditions
  generalize f.conditions = cs, f'.conditions = cs' at conditions
  induction conditions with
  | nil => exact .nil
  | @cons c c' _ _ alike _ ih =>
    rw [List.filter_cons, List.filter_cons, ← alike.field]
    split
    · exact .cons alike ih
    · exact ih

/-- The conditions on a field are alike. -/
lemma condition? (h : FilterAlike f f') (field : Text) :
    Option.Rel ConditionAlike (f.condition? field) (f'.condition? field) := by
  have found := h.filter (· == field)
  unfold Filter.condition?
  generalize (f.conditions.filter fun c => c.field == field) = cs,
    (f'.conditions.filter fun c => c.field == field) = cs' at found
  cases found with
  | nil => exact .none
  | cons alike others =>
    cases others with
    | nil => exact .some alike
    | cons => exact .none

/-- Conditions on anything but labels are the same. -/
lemma eq_of_ne_label (h : FilterAlike f f') (keep : Text → Bool) (plain : keep "label" = false) :
    (f.conditions.filter fun c => keep c.field) = f'.conditions.filter fun c => keep c.field := by
  have conditions := h.conditions
  generalize f.conditions = cs, f'.conditions = cs' at conditions
  induction conditions with
  | nil => rfl
  | cons alike _ ih =>
    cases alike with
    | same c => rw [List.filter_cons, List.filter_cons, ih]
    | label => rw [List.filter_cons, List.filter_cons, ih, plain]; rfl

/-- The conditions on a field other than the label are the same. -/
lemma condition?_eq (h : FilterAlike f f') (other : field ≠ "label") :
    f.condition? field = f'.condition? field := by
  unfold Filter.condition?
  rw [h.eq_of_ne_label (· == field) (by simpa using Ne.symm other)]

end FilterAlike

variable {s : Settings} {f f' : Filter}

/-- Alike filters have the same filters by owner. -/
lemma ownerFilters?_eq (h : FilterAlike f f') : ownerFilters? s f = ownerFilters? s f' := by
  have found := h.condition? "label"
  unfold ownerFilters?
  generalize f.condition? "label" = c, f'.condition? "label" = c' at found
  cases found with
  | none => rfl
  | some alike =>
    cases alike with
    | same => rfl
    | label alike =>
      refine (Corresponds.map (read_alike alike) fun models models' same => ?_).eq
      rw [writeAll_alike same (List.Subset.refl _)]

/-- Alike filters have the same query. -/
lemma queryOf?_eq (h : FilterAlike f f') : queryOf? s f = queryOf? s f' := by
  unfold queryOf? projectFilter? stateFilter?
  rw [ownerFilters?_eq h, h.condition?_eq (by decide), h.condition?_eq (by decide),
    h.condition?_eq (by decide)]

/-- Alike filters select the same in memory, where no condition is on the label. -/
lemma ofFilter_eq {α : Type} {attr : α → Text → Value} (h : FilterAlike f f') (xs : List α) :
    Listing.ofFilter attr (some memoryFields) f xs =
      Listing.ofFilter attr (some memoryFields) f' xs := by
  have evaluated : Listing.evaluated (some memoryFields) f.conditions =
      Listing.evaluated (some memoryFields) f'.conditions :=
    h.eq_of_ne_label (memoryFields.contains ·) (by decide)
  unfold Listing.ofFilter
  rw [evaluated, h.others]

/-- Alike filters have the same listing. -/
lemma getAll_eq (h : FilterAlike f f') : getAll s f = getAll s f' := by
  unfold getAll
  simp only [queryOf?_eq h, ofFilter_eq h]

/-- Secrets of the template of a creation reach docker as the passphrase in the environment of an
identity container and nowhere else, and nothing that a creation comes to depends on them, but the
label that the runner keeps. Secrets of a filter make no difference at all. -/
theorem secrets_kept (s : Settings) (σ : Session) :
    (∀ service r r', RunnerAlike r r' →
      CreationAlike service (createRunner s service r σ) (createRunner s service r' σ)) ∧
    ∀ f f', FilterAlike f f' → getAll s f σ = getAll s f' σ :=
  ⟨fun _ _ _ alike => createRunner_alike alike σ, fun _ _ alike => by rw [getAll_eq alike]⟩

/-- The label of an identity with a passphrase. -/
def identityLabel (passphrase : Text) : Label :=
  .one ⟨.str "identity",
    [("id", .str "1"), ("identity", .str "0xab"), ("passphrase", .str passphrase)]⟩

/-- The labels of two identities are alike. -/
lemma identityLabel_alike (x y : Text) : LabelAlike (identityLabel x) (identityLabel y) := by
  refine .cons (.some ⟨rfl, ?_⟩) .nil
  exact .cons (.inl rfl) (.cons (.inl rfl) (.cons
    (.inr ⟨List.mem_singleton_self _, rfl, x, y, rfl, rfl⟩) .nil))

/-- The creation of an identity node with a passphrase. -/
def sampleCreation (passphrase : Text) : Except Failure Runner × Session :=
  createRunner Sample.settings .identity
    { Sample.template with label := identityLabel passphrase } Sample.session

/-- The filter for the nodes of an identity with a passphrase. -/
def sampleFilter (passphrase : Text) : Filter :=
  Filter.default.require "label" (.label (identityLabel passphrase))

/-- Two identity nodes with different passphrases are created by different commands and yet alike,
and listing them by their labels is the same. -/
theorem sample_secrets_kept :
    lastCreation (sampleCreation "secret").2.log ≠ lastCreation (sampleCreation "other").2.log ∧
      CreationAlike .identity (sampleCreation "secret") (sampleCreation "other") ∧
      getAll Sample.settings (sampleFilter "secret") Sample.session =
        getAll Sample.settings (sampleFilter "other") Sample.session := by
  obtain ⟨creations, listings⟩ := secrets_kept Sample.settings Sample.session
  refine ⟨by decide +kernel, creations _ _ _ ⟨rfl, identityLabel_alike _ _⟩, listings _ _ ⟨rfl, ?_⟩⟩
  exact .cons (.label (identityLabel_alike _ _)) .nil

end ProxyFleet.Discovery
