import ProxyFleet.Proofs.Keyed
import ProxyFleet.Proofs.Label.Keys

/-!
# Regrouping

What the entries hold that are regrouped from flat labels: a field has the value of the label under
its key, and whatever other labels there are makes no difference.
-/

namespace ProxyFleet

variable {p key name : Text} {o : Owner} {groups : List (Owner × List (Text × Json))}
  {labels : List (Text × Json)}

/-- The value that a field of an owner has in groups. -/
def slot? (groups : List (Owner × List (Text × Json))) (o : Owner) (name : Text) : Option Json :=
  (Keyed.get? o groups).bind (Keyed.get? name)

/-- One more label sets the field that its key is read as. -/
lemma slot?_regroupOne (label : Text × Json) :
    slot? (regroupOne p groups label) o name =
      if readKey? p label.1 = some (o, name) then some label.2 else slot? groups o name := by
  rcases read : readKey? p label.1 with _ | ⟨owner, field⟩
  · simp [regroupOne, read]
  · simp only [regroupOne, read, slot?, Keyed.get?_put, Option.some.injEq, Prod.mk.injEq]
    by_cases same : owner = o
    · subst same
      simp only [if_true, Option.bind_some, Keyed.get?_put, true_and]
      -- an owner that had no group yet had no value for any of its fields
      cases Keyed.get? owner groups <;> simp [Keyed.get?]
    · simp [same]

/-- One more label leaves the owners of the groups distinct. -/
lemma nodup_regroupOne (nodup : (Keyed.keys groups).Nodup) (label : Text × Json) :
    (Keyed.keys (regroupOne p groups label)).Nodup := by
  unfold regroupOne
  split
  · exact nodup
  · exact Keyed.nodup_put _ _ nodup

/-- Labels leave the owners of the groups distinct. -/
lemma nodup_regroup (nodup : (Keyed.keys groups).Nodup) (labels : List (Text × Json)) :
    (Keyed.keys (labels.foldl (regroupOne p) groups)).Nodup := by
  induction labels generalizing groups with
  | nil => exact nodup
  | cons label rest ih => exact ih (nodup_regroupOne nodup label)

/-- A label that is read adds the group of its owner if it is new. -/
lemma keys_regroupOne {label : Text × Json} (read : readKey? p label.1 = some (o, name)) :
    Keyed.keys (regroupOne p groups label) =
      if o ∈ Keyed.keys groups then Keyed.keys groups else Keyed.keys groups ++ [o] := by
  simp only [regroupOne, read]
  exact Keyed.keys_put _ _ _

/-- Labels of an owner that has a group already start no further one. -/
lemma keys_regroup_of_mem (each : ∀ label ∈ labels, ∃ name, readKey? p label.1 = some (o, name))
    (known : o ∈ Keyed.keys groups) :
    Keyed.keys (labels.foldl (regroupOne p) groups) = Keyed.keys groups := by
  induction labels generalizing groups with
  | nil => rfl
  | cons label rest ih =>
    obtain ⟨name, read⟩ := each label List.mem_cons_self
    have same : Keyed.keys (regroupOne p groups label) = Keyed.keys groups := by
      rw [keys_regroupOne read, if_pos known]
    have others := ih (fun label' mem => each label' (List.mem_cons_of_mem _ mem)) (same ▸ known)
    rw [List.foldl_cons, others, same]

/-- Labels of a new owner start one further group. -/
lemma keys_regroup_of_not_mem
    (each : ∀ label ∈ labels, ∃ name, readKey? p label.1 = some (o, name)) (some : labels ≠ [])
    (fresh : o ∉ Keyed.keys groups) :
    Keyed.keys (labels.foldl (regroupOne p) groups) = Keyed.keys groups ++ [o] := by
  obtain ⟨label, rest, rfl⟩ := List.exists_cons_of_ne_nil some
  obtain ⟨name, read⟩ := each label List.mem_cons_self
  have started : Keyed.keys (regroupOne p groups label) = Keyed.keys groups ++ [o] := by
    rw [keys_regroupOne read, if_neg fresh]
  have known : o ∈ Keyed.keys (regroupOne p groups label) :=
    started ▸ List.mem_append_right _ (List.mem_singleton_self o)
  have others := keys_regroup_of_mem
    (fun label' mem => each label' (List.mem_cons_of_mem _ mem)) known
  rw [List.foldl_cons, others, started]

/-- A field has the value of the one label whose key is read as the field. -/
lemma slot?_regroup (read : readKey? p key = some (o, name)) (nodup : (Keyed.keys labels).Nodup)
    (only : ∀ k ∈ Keyed.keys labels, readKey? p k = some (o, name) → k = key) :
    slot? (labels.foldl (regroupOne p) groups) o name =
      (Keyed.get? key labels).or (slot? groups o name) := by
  induction labels generalizing groups with
  | nil => rfl
  | cons label rest ih =>
    obtain ⟨k, j⟩ := label
    obtain ⟨fresh, nodup⟩ := List.nodup_cons.mp nodup
    rw [List.foldl_cons, ih nodup fun k mem => only k (List.mem_cons_of_mem _ mem),
      slot?_regroupOne]
    -- the first label is the one, or it is read as another field
    by_cases same : k = key
    · subst same
      simp [Keyed.get?, read, Keyed.get?_eq_none.mpr fresh]
    · have other : readKey? p k ≠ some (o, name) := fun h =>
        same (only k List.mem_cons_self h)
      simp [Keyed.get?, same, other]

/-- The label of a container has the regrouped entries, one or many. -/
lemma Label.ofFlat_entries (p : Text) (labels : List (Text × Json)) :
    (Label.ofFlat p labels).entries = (regroup p labels).map some := by
  unfold Label.ofFlat
  split
  case h_1 none => rw [none]; rfl
  case h_2 one => rw [one]; rfl
  case h_3 many => rfl

end ProxyFleet
