import Mathlib.Tactic.Common
import ProxyFleet.Runner

/-!
# Names of services and conditions

A value names a service or a condition exactly when it is its name, and the states that a condition
covers are those that stand for it.
-/

namespace ProxyFleet

/-- A service is read from its name alone. -/
lemma Service.ofJson?_eq_some {j : Json} {service : Service} :
    Service.ofJson? j = some service ↔ j = .str service.name := by
  constructor
  · intro h
    cases j with
    | str s =>
      have eq : service.name = s := by simpa using List.find?_some h
      rw [eq]
    | _ => cases h
  · rintro rfl
    cases service <;> decide

/-- A service is read back from its name. -/
lemma Service.ofJson?_name (service : Service) :
    Service.ofJson? (.str service.name) = some service :=
  Service.ofJson?_eq_some.mpr rfl

namespace RunnerStatus

/-- A status is read from its name alone. -/
lemma ofJson?_eq_some {j : Json} {status : RunnerStatus} :
    ofJson? j = some status ↔ j = .str status.name := by
  constructor
  · intro h
    cases j with
    | str s =>
      have eq : status.name = s := by simpa using List.find?_some h
      rw [eq]
    | _ => cases h
  · rintro rfl
    cases status <;> decide

/-- A status is read back from its name. -/
lemma ofJson?_name (status : RunnerStatus) : ofJson? (.str status.name) = some status :=
  ofJson?_eq_some.mpr rfl

/-- The states that docker gives containers. -/
def knownStates : List Text :=
  ["created", "running", "restarting", "exited", "paused", "dead", "removing"]

/-- A condition covers exactly the states that stand for it. -/
lemma mem_dockerStates {state : Text} (known : state ∈ knownStates) (status : RunnerStatus) :
    state ∈ status.dockerStates ↔ ofDockerState state = status := by
  have all : ∀ state ∈ knownStates, ∀ status ∈ RunnerStatus.all,
      (state ∈ status.dockerStates ↔ ofDockerState state = status) := by decide +kernel
  exact all state known status (by cases status <;> decide)

end RunnerStatus

/-- Only a text equals a text. -/
lemma Value.str_same {t : Text} {operand : Operand} :
    (Value.str t).same operand.toValue = true ↔ operand = .json (.str t) := by
  constructor
  · intro h
    cases operand with
    | json j =>
      cases j with
      | str s =>
        have eq : t = s := by simpa [Operand.toValue, ofJson, same] using h
        rw [eq]
      | _ => cases h
    | label l => cases l <;> cases h
  · rintro rfl
    simp [Operand.toValue, ofJson, same]

end ProxyFleet
