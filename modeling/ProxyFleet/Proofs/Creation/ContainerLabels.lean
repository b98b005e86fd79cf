import ProxyFleet.Creation.Assembly
import ProxyFleet.Proofs.Label.Restoring

/-!
# Labels of new containers

A new container has labels of its own and labels for its owners. The keys of the two never meet, and
none has a form that docker or a later reading of the labels would take for something else.
-/

namespace ProxyFleet.Creation

variable {s : Settings} {service : Service} {o : Order} {owner : Owner} {f : Field}
  {id key name a b : Text} {labels : List (Text × Text)}

/-- The names of the labels that a container has of its own. -/
def ownNames : List Text := ["id", "project", "create-by", "publish-port"]

/-- The keys that the labels of a container may have. -/
inductive LabelKey (s : Settings) : Text → Prop where
  | own (name : Text) : name ∈ ownNames → LabelKey s (s.key name)
  | field (owner : Owner) (f : Field) :
    f ∈ owner.fields → LabelKey s (fieldKey s.docker.keyPrefix owner f.name)
  | autoheal : LabelKey s "autoheal"

/-- The names of the fleet's own labels have no point, no underscore and no equals sign. -/
lemma ownNames_plain (h : name ∈ ownNames) :
    .char '.' ∉ name ∧ .char '_' ∉ name ∧ .char '=' ∉ name := by
  have plain : ∀ name ∈ ownNames, .char '.' ∉ name ∧ .char '_' ∉ name ∧ .char '=' ∉ name := by
    decide
  exact plain name h

/-- Different names have different keys. -/
lemma key_inj (h : s.key a = s.key b) : a = b := List.append_cancel_left h

/-- A label of the fleet is no label of a field. -/
lemma key_ne_fieldKey (h : name ∈ ownNames) (known : f ∈ owner.fields) :
    s.key name ≠ fieldKey s.docker.keyPrefix owner f.name := by
  intro eq
  obtain ⟨front, -⟩ := append_point_inj eq (ownNames_plain h).1 (Owner.hyphenated_plain known).1
  -- the prefix would have to go on with the name of the owner, and not with points alone
  obtain ⟨tail, whole, points⟩ := Text.exists_stripEnd '.' s.docker.keyPrefix
  have rest : tail = "." ++ owner.name := by
    have same := whole.symm.trans front
    rw [List.append_assoc] at same
    exact List.append_cancel_left same
  obtain ⟨some, plain⟩ := owner.name_plain
  obtain ⟨c, others, name⟩ := List.exists_cons_of_ne_nil some
  have mem : c ∈ owner.name := by simp [name]
  have point := points c (by simp [rest, mem])
  exact plain (point ▸ mem)

/-- A label of the fleet is not the one for healing. -/
lemma key_ne_autoheal (s : Settings) (name : Text) : s.key name ≠ "autoheal" := by
  intro eq
  have point : .char '.' ∈ s.key name := point_mem _ _
  exact absurd (eq ▸ point) (by decide)

/-- Neither is a label of a field. -/
lemma fieldKey_ne_autoheal (p : Text) (owner : Owner) (name : Text) :
    fieldKey p owner name ≠ "autoheal" := by
  intro eq
  have point : .char '.' ∈ fieldKey p owner name := point_mem _ _
  exact absurd (eq ▸ point) (by decide)

namespace LabelKey

/-- No key of a label has an equals sign, unless the prefix has one. -/
lemma not_mem_equals (plain : .char '=' ∉ s.docker.keyPrefix) (h : LabelKey s key) :
    .char '=' ∉ key := by
  intro mem
  cases h with
  | own name known =>
    rcases List.mem_append.mp mem with mem | mem
    · rcases List.mem_append.mp mem with mem | mem
      · exact plain mem
      · exact absurd mem (by decide)
    · exact (ownNames_plain known).2.2 mem
  | field owner f known => exact not_mem_equals_fieldKey plain known mem
  | autoheal => exact absurd mem (by decide)

/-- The last part of a label key has no underscore. -/
lemma not_mem_underscore (h : LabelKey s (a ++ "." ++ b)) (single : .char '.' ∉ b) :
    .char '_' ∉ b := by
  generalize whole : a ++ "." ++ b = key at h
  cases h with
  | own name known =>
    obtain ⟨one, plain, -⟩ := ownNames_plain known
    obtain ⟨-, rfl⟩ := append_point_inj whole single one
    exact plain
  | field owner f known =>
    obtain ⟨one, plain⟩ := Owner.hyphenated_plain known
    obtain ⟨-, rfl⟩ := append_point_inj whole single one
    exact plain
  | autoheal =>
    have point := point_mem a b
    exact absurd (whole ▸ point) (by decide)

end LabelKey

/-- Whether labels are those of a new container: its own and those that name its owners. -/
structure Marked (s : Settings) (service : Service) (o : Order) (id : Text)
    (labels : List (Text × Text)) : Prop where
  nodup : (Keyed.keys labels).Nodup
  known : ∀ key ∈ Keyed.keys labels, LabelKey s key
  id : Keyed.get? (s.key "id") labels = some id
  project : Keyed.get? (s.key "project") labels = some service.name
  fields : ∀ {owner : Owner} {f : Field}, f ∈ owner.fields →
    Keyed.get? (fieldKey s.docker.keyPrefix owner f.name) labels =
      Keyed.get? (fieldKey s.docker.keyPrefix owner f.name) (s.ownerLabels o)

/-- The labels of a container mark it. -/
lemma containerLabels_marked (wf : ∀ m ∈ o.models, m.WellFormed) :
    Marked s service o id (s.containerLabels service o id) := by
  have owners : (Keyed.keys (s.ownerLabels o)).Nodup := Model.nodup_flatAll _ _ _
  have foreign : ∀ {name}, name ∈ ownNames → Keyed.get? (s.key name) (s.ownerLabels o) = none := by
    intro name own
    apply Option.eq_none_iff_forall_ne_some.mpr
    intro v written
    obtain ⟨m, -, f, known, -, -, -, eq, -⟩ := Model.exists_of_get?_flatAll wf written
    exact key_ne_fieldKey own known eq
  -- the labels of owners come last and are looked up first
  have value : ∀ key : Text, key ≠ "autoheal" → Keyed.get? key (s.containerLabels service o id) =
      (Keyed.get? key (s.ownerLabels o)).or (Keyed.get? key
        [(s.key "create-by", "api"), (s.key "project", service.name), (s.key "id", id)]) := by
    intro key other
    unfold Settings.containerLabels
    rw [Keyed.get?_put, if_neg (Ne.symm other), Keyed.get?_ofList, List.reverse_append,
      Keyed.get?_append, Keyed.get?_reverse owners]
    rfl
  have apart : ∀ {a b : Text}, a ≠ b → s.key a ≠ s.key b := fun other eq => other (key_inj eq)
  refine ⟨Keyed.nodup_put _ _ (Keyed.nodup_ofList _), ?_, ?_, ?_, ?_⟩
  · intro key mem
    by_cases heal : key = "autoheal"
    · exact heal ▸ .autoheal
    · obtain ⟨v, found⟩ := Keyed.exists_get?_of_mem mem
      rw [value key heal] at found
      rcases Option.or_eq_some_iff.mp found with written | ⟨-, own⟩
      · obtain ⟨m, -, f, known, -, -, -, rfl, -⟩ := Model.exists_of_get?_flatAll wf written
        exact .field m.owner f known
      · have own := Keyed.mem_of_get? own
        simp only [List.mem_cons, Prod.mk.injEq, List.not_mem_nil, or_false] at own
        rcases own with ⟨rfl, -⟩ | ⟨rfl, -⟩ | ⟨rfl, -⟩ <;> exact .own _ (by decide)
  · rw [value _ (key_ne_autoheal s _), foreign (by decide)]
    simp [Keyed.get?, apart (show ("create-by" : Text) ≠ "id" by decide),
      apart (show ("project" : Text) ≠ "id" by decide)]
  · rw [value _ (key_ne_autoheal s _), foreign (by decide)]
    simp [Keyed.get?, apart (show ("create-by" : Text) ≠ "project" by decide)]
  · intro owner f known
    rw [value _ (fieldKey_ne_autoheal _ _ _)]
    have own : ∀ {name}, name ∈ ownNames →
        s.key name ≠ fieldKey s.docker.keyPrefix owner f.name := fun h => key_ne_fieldKey h known
    simp [Keyed.get?, own (show ("create-by" : Text) ∈ ownNames by decide),
      own (show ("project" : Text) ∈ ownNames by decide),
      own (show ("id" : Text) ∈ ownNames by decide)]

/-- A published port leaves a container marked. -/
lemma Marked.publish (h : Marked s service o id labels) (port : Text) :
    Marked s service o id (Keyed.put s.portKey port labels) := by
  have own : ("publish-port" : Text) ∈ ownNames := by decide
  have other : ∀ {name : Text}, "publish-port" ≠ name → s.portKey ≠ s.key name :=
    fun differ eq => differ (key_inj eq)
  refine ⟨Keyed.nodup_put _ _ h.nodup, ?_, ?_, ?_, ?_⟩
  · intro key mem
    rw [Keyed.keys_put] at mem
    split at mem
    · exact h.known key mem
    · rcases List.mem_append.mp mem with mem | mem
      · exact h.known key mem
      · exact List.mem_singleton.mp mem ▸ .own _ own
  · rw [Keyed.get?_put, if_neg (other (by decide)), h.id]
  · rw [Keyed.get?_put, if_neg (other (by decide)), h.project]
  · intro owner f known
    have field : s.portKey ≠ fieldKey s.docker.keyPrefix owner f.name := key_ne_fieldKey own known
    rw [Keyed.get?_put, if_neg field, h.fields known]

end ProxyFleet.Creation
