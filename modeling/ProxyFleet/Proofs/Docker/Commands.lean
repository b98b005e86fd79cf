import ProxyFleet.Proofs.Docker.Composed

/-!
# What docker commands ask

For every operation on containers, volumes and networks, the docker commands that it is composed of.
A listing begins with its query.
-/

namespace ProxyFleet.Docker

/-- A call that starts with a command is one for it. -/
lemma Commands.head (name : Text) (rest : List Text) : Commands [name] (name :: rest) :=
  ⟨name, List.mem_singleton_self name, rfl⟩

/-- A container is created by a call that names it first. -/
lemma Spec.exists_toArgs (spec : Spec) :
    ∃ rest, spec.toArgs = ("create" : Text) :: "--name" :: rest := by
  simp only [toArgs, flagged, List.flatMap_cons, List.flatMap_nil, List.cons_append,
    List.nil_append]
  exact ⟨_, rfl⟩

/-- A specification is a call that creates a container. -/
lemma Spec.toArgs_creates (spec : Spec) : Commands ["create"] spec.toArgs := by
  obtain ⟨rest, eq⟩ := spec.exists_toArgs
  rw [eq]
  exact .head _ _

/-- Creating a container is one call with its specification, and gives what is printed. -/
lemma create_grew (spec : Spec) (σ : Session) :
    ∃ reply, (create spec σ).1 = (reply.result spec.toArgs).map Text.strip ∧
      σ.Grew (· = spec.toArgs) [.call (σ.binary :: spec.toArgs) reply] (create spec σ).2 := by
  obtain ⟨reply, eq, g⟩ := run_run spec.toArgs σ
  refine ⟨reply, ?_⟩
  unfold create
  rw [run_bind]
  rcases h : run spec.toArgs σ with ⟨_ | out, σ₁⟩ <;> rw [h] at eq g <;> rw [← eq] <;>
    exact ⟨rfl, g⟩

/-- The arguments that start a container. -/
def startArgs (id : Text) : List Text := ["start", id]

/-- Starting a container is one call. -/
lemma start_grew (id : Text) (σ : Session) :
    ∃ reply, (start id σ).1 = (reply.result (startArgs id)).map (fun _ => ()) ∧
      σ.Grew (· = startArgs id) [.call (σ.binary :: startArgs id) reply] (start id σ).2 := by
  obtain ⟨reply, eq, g⟩ := run_run (startArgs id) σ
  refine ⟨reply, ?_⟩
  unfold start
  show ((run (startArgs id) >>= fun _ => pure ()) σ).1 = _ ∧
    σ.Grew _ _ ((run (startArgs id) >>= fun _ => pure ()) σ).2
  rw [run_bind]
  rcases h : run (startArgs id) σ with ⟨_ | out, σ₁⟩ <;> rw [h] at eq g <;> rw [← eq] <;>
    exact ⟨rfl, g⟩

/-- Whether a failure says that a container is already gone. -/
def saysGone : Failure → Bool
  | .command _ _ err _ => Text.occursIn "No such container" err
  | _ => false

/-- Removing a container is one command; it fails as the command does, unless the container is
already gone. -/
lemma remove_grew (id : Text) (force volumes : Bool) (σ : Session) :
    ∃ reply,
      (∀ e, (remove id force volumes σ).1 = .error e ↔
        reply.result (removeArgs id force volumes) = .error e ∧ saysGone e = false) ∧
      σ.Grew (· = removeArgs id force volumes)
        [.call (σ.binary :: removeArgs id force volumes) reply] (remove id force volumes σ).2 := by
  obtain ⟨reply, eq, g⟩ := run_run (removeArgs id force volumes) σ
  refine ⟨reply, ?_⟩
  unfold remove
  rw [run_bind, run_attempt, ← eq]
  rcases h : run (removeArgs id force volumes) σ with ⟨e | out, σ₁⟩ <;> rw [h] at g
  · cases e
    case command args status err out =>
      by_cases gone : Text.occursIn "No such container" err = true
      · simp [saysGone, gone, g]
      · simp [saysGone, gone, g]
    all_goals simp [saysGone, g]
  · simp [g]

/-- Starting a container asks for nothing else. -/
lemma start_composed (id : Text) : Composed (Commands ["start"]) (start id) :=
  .bind (.run (.head _ _)) fun _ => .pure _

/-- Removing a container asks for nothing else. -/
lemma remove_composed (id : Text) (force volumes : Bool) :
    Composed (Commands ["rm"]) (remove id force volumes) := by
  refine .attempt (.run (.head _ _)) fun outcome ordinary => ?_
  split
  · exact .pure _
  · split
    · exact .pure _
    · exact .throw rfl
  · exact .throw (ordinary _ rfl)

/-- Inspecting containers asks for inspections only. -/
lemma inspect_composed (ids : List Text) : Composed (Commands ["inspect"]) (inspect ids) := by
  unfold inspect
  split
  · exact .pure _
  · exact .attempt (.run (.head _ _)) fun _ ordinary =>
      .bind (.lift (inspectionOutput_ordinary ordinary)) fun _ => .lift (readContainers_ordinary _)

/-- A query is a call that lists processes. -/
lemma Query.toArgs_head {q : Query} {args : List Text} (h : q.toArgs = .ok args) :
    args.head? = some "ps" := by
  obtain ⟨name, -, h⟩ := bind_eq_ok.mp h
  cases h
  rfl

/-- A listing begins with its query. -/
lemma list_begins {P : List Text → Prop} {q : Query} {args : List Text} (h : q.toArgs = .ok args)
    (query : P args) (inspects : ∀ args, Commands ["inspect"] args → P args) :
    Begins P args (list q) := by
  unfold list
  rw [h]
  show Begins _ args (run args >>= fun out => inspect (readIds out))
  exact .bind (.run query) fun out => (inspect_composed _).asks.mono inspects

/-- A listing asks for its query and for inspections. -/
lemma list_composed {P : List Text → Prop} {q : Query}
    (query : ∀ args, q.toArgs = .ok args → P args)
    (inspects : ∀ args, Commands ["inspect"] args → P args) : Composed P (list q) := by
  unfold list
  have ordinary := q.toArgs_ordinary
  rcases h : q.toArgs with e | args
  · rw [h] at ordinary
    exact .throw (ordinary e rfl)
  · show Composed P (run args >>= fun out => inspect (readIds out))
    exact .bind (.run (query args h)) fun out => (inspect_composed _).mono inspects

/-- Whether a volume exists takes one inspection. -/
lemma volumeExists_composed_of {P : List Text → Prop} {name : Text}
    (h : P ["volume", "inspect", name]) : Composed P (volumeExists name) := by
  refine .attempt (.run h) fun outcome ordinary => ?_
  split
  · exact .pure _
  · split
    · exact .pure _
    · exact .throw rfl
  · exact .throw (ordinary _ rfl)

/-- So it takes commands on volumes only. -/
lemma volumeExists_composed (name : Text) :
    Composed (Commands ["volume"]) (volumeExists name) := volumeExists_composed_of (.head _ _)

/-- Creating a volume takes commands on volumes only. -/
lemma createVolume_composed (name : Text) (options labels : List (Text × Text)) :
    Composed (Commands ["volume"]) (createVolume name options labels) :=
  .bind (.run (.head _ _)) fun _ => .pure _

/-- Inspecting a network takes commands on networks only. -/
lemma inspectNetwork_composed (name : Text) :
    Composed (Commands ["network"]) (inspectNetwork name) :=
  .bind (.run (.head _ _)) fun _ => .lift (NetworkInfo.read_ordinary _ _)

end ProxyFleet.Docker
