import ProxyFleet.Docker.Document
import ProxyFleet.Proofs.Outcome

/-!
# Documents that are looked into

When access to a document of unknown shape gives something, the document has the shape that the
access is meant for, and it is that member or element that is given.
-/

namespace ProxyFleet.Json

variable {j v : Json} {key : Text} {ms : List (Text × Json)}

/-- A required member is the one that is there. -/
lemma require_eq_ok : j.require key = .ok v ↔ j.member? key = some v := by
  cases j with
  | obj ms =>
    unfold require member?
    dsimp only
    split <;> rename_i found <;> rw [found] <;> simp
  | _ => simp [require, member?]

/-- A member that may be missing counts as null when it is. -/
lemma lookup_eq_ok : j.lookup key = .ok v ↔
    (∃ ms, j = .obj ms) ∧ v = (j.member? key).getD .null := by
  cases j with
  | obj ms => simp [lookup, member?, eq_comm]
  | _ => simp [lookup]

/-- What is no object has no members to ask for. -/
lemma lookup_other (other : ∀ ms, j ≠ .obj ms) : j.lookup key = .error .noAttribute := by
  cases j with
  | obj ms => exact absurd rfl (other ms)
  | _ => rfl

/-- The members of an object are those it has. -/
lemma members_eq_ok : j.members = .ok ms ↔ j = .obj ms := by
  cases j <;> simp [members]

/-- A text is the text of a value that is one. -/
lemma asText_eq_ok {t : Text} : j.asText = .ok t ↔ j = .str t := by
  cases j <;> simp [asText]

/-- An object that comes first is the first one of a list. -/
lemma first_eq_obj : j.first = .ok (.obj ms) ↔ ∃ rest, j = .arr (.obj ms :: rest) := by
  cases j with
  | arr xs => cases xs <;> simp [first]
  | str s => cases s <;> simp [first]
  | _ => simp [first]

/-- What may be missing is taken for an object exactly when it is nothing or an object. -/
lemma exists_orEmpty {o : Option Json} : (∃ ms, (o.getD .null).orEmpty = .obj ms) ↔
    ∀ j, o = some j → j.isBlank ∨ ∃ ms, j = .obj ms := by
  cases o with
  | none => exact ⟨fun _ => nofun, fun _ => ⟨[], rfl⟩⟩
  | some j =>
    simp only [Option.getD_some, orEmpty, Option.some.injEq, forall_eq']
    split
    · rename_i blank
      exact ⟨fun _ => .inl blank, fun _ => ⟨[], rfl⟩⟩
    · rename_i given
      exact ⟨.inr, fun h => h.resolve_left given⟩

/-- What is found at the end of a path of members. -/
def at? : List Text → Json → Option Json
  | [], j => some j
  | key :: path, j => (j.member? key).bind (at? path)

/-- A value with a member is an object. -/
lemma exists_obj (h : j.member? key = some v) : ∃ ms, j = .obj ms := by
  cases j with
  | obj ms => exact ⟨ms, rfl⟩
  | _ => cases h

end ProxyFleet.Json
