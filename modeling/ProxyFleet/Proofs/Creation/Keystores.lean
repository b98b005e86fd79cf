import ProxyFleet.Proofs.Creation.Requests
import ProxyFleet.Proofs.Creation.Retries
import ProxyFleet.Proofs.Docker.Inspection

/-!
# Keystores on the host

The volume of an identity node is bound to a directory of the host. A source in the working
directory stands for what is found at the same place below the keystore root, and any other source
for itself. The volume is bound accordingly, unless the source goes on after the name of the
working directory without a slash: it is then taken for one that lies in the working directory.
-/

namespace ProxyFleet

/-! ## Paths -/

/-- Whether a path is a directory or lies below it. -/
def Within (dir path : Text) : Prop :=
  path = dir ∨ dir ++ ("/" : Text) <+: path ∨ dir = "/" ∧ ("/" : Text) <+: path

/-- Whether a path lies within a directory can be decided. -/
instance (dir path : Text) : Decidable (Within dir path) :=
  inferInstanceAs (Decidable (_ ∨ _ ∨ _ ∧ _))

/-- A path below a directory as it is seen from there. -/
def relativeTo (dir path : Text) : Text :=
  let rest := path.drop dir.length
  (Text.after? "/" rest).getD rest

/-- The directory of the host that a source stands for. -/
def resolved (root dir path : Text) : Text :=
  if path = dir then Text.stripEnd '/' root
  else if Within dir path then Text.stripEnd '/' root ++ "/" ++ relativeTo dir path
  else path

/-- Whether a path begins with the name of a directory and goes on without a slash. -/
def RunsOn (dir path : Text) : Prop :=
  ∃ rest, path = dir ++ rest ∧ rest ≠ [] ∧ rest.head? ≠ some (.char '/')

section

variable {root dir path rest : Text}

/-- The directory itself is resolved to the root. -/
lemma resolved_self : resolved root dir dir = Text.stripEnd '/' root := if_pos rfl

/-- A path below the directory is resolved to one below the root. -/
lemma resolved_below (root dir rest : Text) :
    resolved root dir (dir ++ "/" ++ rest) = Text.stripEnd '/' root ++ "/" ++ rest := by
  have longer : dir ++ "/" ++ rest ≠ dir := by
    rw [List.append_assoc]
    exact fun eq => absurd (List.append_right_eq_self.mp eq) nofun
  have seen : relativeTo dir (dir ++ "/" ++ rest) = rest := by
    rw [relativeTo, List.append_assoc, List.drop_left]
    rfl
  rw [resolved, if_neg longer, if_pos (.inr (.inl (List.prefix_append _ _))), seen]

/-- A path that does not start as the directory does is left as it is. -/
lemma resolved_apart (apart : ¬ dir <+: path) : resolved root dir path = path := by
  have outside : ¬ Within dir path := by
    rintro (rfl | below | ⟨rfl, below⟩)
    · exact apart List.prefix_rfl
    · exact apart ((List.prefix_append _ _).trans below)
    · exact apart below
  rw [resolved, if_neg fun eq => outside (.inl eq), if_neg outside]

/-- A path that runs on lies below no directory but the topmost. -/
lemma resolved_runsOn (some : rest ≠ []) (solid : rest.head? ≠ Option.some (.char '/')) :
    resolved root dir (dir ++ rest) =
      if dir = "/" then Text.stripEnd '/' root ++ "/" ++ rest else dir ++ rest := by
  have longer : dir ++ rest ≠ dir := fun eq => some (List.append_right_eq_self.mp eq)
  have apart : ¬ dir ++ ("/" : Text) <+: dir ++ rest := by
    rw [List.prefix_append_right_inj]
    rintro ⟨more, rfl⟩
    exact solid rfl
  rw [resolved, if_neg longer]
  by_cases top : dir = "/"
  · subst top
    have unslashed : Text.after? "/" rest = none := by
      rcases found : Text.after? "/" rest with _ | more
      · rfl
      · exact absurd (Text.after?_eq_some.mp found ▸ rfl) solid
    have seen : relativeTo "/" ("/" ++ rest) = rest := by
      rw [relativeTo, List.drop_left, unslashed]
      rfl
    rw [if_pos (.inr (.inr ⟨rfl, List.prefix_append _ _⟩)), seen, if_pos rfl]
  · have outside : ¬ Within dir (dir ++ rest) := by
      rintro (eq | below | ⟨eq, -⟩)
      · exact longer eq
      · exact apart below
      · exact top eq
    rw [if_neg outside, if_neg top]

end

namespace Creation
open Docker

variable {s : Settings} {o : Order} {r : Runner} {root path rest device : Text} {args : List Text}
  {σ σ₁ : Session}

section

variable (rooted : s.docker.keystoreRoot = some root) (given : root ≠ [])

include rooted given

/-- The path on the host is resolved by what follows the working directory, whatever it is. -/
lemma hostPath_eq : s.hostPath (.str path) = .ok (match Text.after? s.workingDirectory path with
    | some rest => Text.stripEnd '/' root ++ rest
    | none => path) := by
  have kept : s.docker.keystoreRoot.filter (fun root => !root.isEmpty) = some root := by
    rw [rooted]
    exact Option.filter_some_pos (by simpa using given)
  rw [Settings.hostPath, kept]
  show (match Text.after? s.workingDirectory path with
    | some rest => Except.ok (Text.stripEnd '/' root ++ rest)
    | none => Except.ok path) = _
  split <;> rfl

/-- Whatever follows the working directory is put behind the root. -/
lemma hostPath_append (rest : Text) :
    s.hostPath (.str (s.workingDirectory ++ rest)) = .ok (Text.stripEnd '/' root ++ rest) := by
  have found : Text.after? s.workingDirectory (s.workingDirectory ++ rest) = some rest :=
    Text.after?_eq_some.mpr rfl
  rw [hostPath_eq rooted given, found]

/-- A path that does not start as the working directory does is left as it is. -/
lemma hostPath_apart (apart : ¬ s.workingDirectory <+: path) :
    s.hostPath (.str path) = .ok path := by
  have missing : Text.after? s.workingDirectory path = none := by
    rcases found : Text.after? s.workingDirectory path with _ | rest
    · rfl
    · exact absurd ⟨rest, Text.after?_eq_some.mp found⟩ apart
  rw [hostPath_eq rooted given, missing]

/-- A source is resolved unless it runs on after the working directory, when the root's own name may
still make up for that. -/
lemma hostPath_resolves_iff (bound : s.hostPath (.str path) = .ok device) :
    device = resolved root s.workingDirectory path ↔
      ¬ RunsOn s.workingDirectory path ∨ Text.stripEnd '/' root = s.workingDirectory := by
  by_cases begins : s.workingDirectory <+: path
  case neg =>
    cases (hostPath_apart rooted given begins).symm.trans bound
    refine iff_of_true (resolved_apart begins).symm (.inl ?_)
    rintro ⟨rest, rfl, -⟩
    exact begins (List.prefix_append _ _)
  obtain ⟨rest, rfl⟩ := begins
  cases (hostPath_append rooted given rest).symm.trans bound
  have runsOn : RunsOn s.workingDirectory (s.workingDirectory ++ rest) ↔
      rest ≠ [] ∧ rest.head? ≠ some (.char '/') := by
    refine ⟨?_, fun h => ⟨rest, rfl, h⟩⟩
    rintro ⟨_, same, h⟩
    exact List.append_cancel_left same ▸ h
  rw [runsOn]
  by_cases empty : rest = []
  · subst empty
    rw [List.append_nil, List.append_nil, resolved_self]
    exact iff_of_true rfl (.inl fun h => h.1 rfl)
  by_cases slash : rest.head? = some (.char '/')
  · obtain ⟨below, rfl⟩ := List.head?_eq_some_iff.mp slash
    have same := resolved_below root s.workingDirectory below
    rw [List.append_assoc, List.append_assoc] at same
    exact iff_of_true same.symm (.inl fun h => h.2 slash)
  rw [resolved_runsOn empty slash]
  split
  · rename_i top
    have other : Text.stripEnd '/' root ≠ s.workingDirectory :=
      top ▸ Text.stripEnd_ne_append _ root []
    refine iff_of_false (fun same => ?_) fun h => h.elim (· ⟨empty, slash⟩) other
    rw [List.append_assoc, List.append_cancel_left_eq] at same
    exact absurd (List.self_eq_append_left.mp same) nofun
  · rw [List.append_cancel_right_eq]
    exact ⟨.inr, fun h => h.resolve_left (not_not_intro ⟨empty, slash⟩)⟩

end

/-! ## Volumes -/

/-- The arguments of a call that creates a volume. -/
def volumeCreation? : Event → Option (List Text)
  | .call (_ :: command :: sub :: args) _ =>
    if command = "volume" ∧ sub = "create" then some args else none
  | _ => none

/-- A volume is created by the call for it. -/
lemma volumeCreation?_call (binary : Text) (args : List Text) (reply : Reply) :
    volumeCreation? (.call (binary :: "volume" :: "create" :: args) reply) = some args := by
  rw [volumeCreation?]
  exact if_pos ⟨rfl, rfl⟩

/-- The driver options among the arguments that create a volume. Each flag takes a value. -/
def driverOptions : List Text → List (Text × Text)
  | flag :: value :: rest =>
    if flag = "--opt" then readLabel value :: driverOptions rest else driverOptions rest
  | _ => []

/-- The options with which a volume is bound to a directory of the host. -/
def bindOptions (device : Text) : List (Text × Text) :=
  [("type", "none"), ("o", "bind"), ("device", device)]

/-- Whether arguments bind a volume to a directory if they create one. -/
def CreatesBound (device : Text) (asked : List Text) : Prop :=
  ∀ args, asked = ("volume" : Text) :: "create" :: args → driverOptions args = bindOptions device

/-- Other commands create no volume. -/
lemma CreatesBound.ofCommands {names asked : List Text} (other : ("volume" : Text) ∉ names)
    (h : Commands names asked) : CreatesBound device asked := by
  rintro args rfl
  exact absurd (Commands.head _ _) (Commands.not_of_not_mem other h)

/-- The labels of a volume are no options of its driver. -/
lemma driverOptions_labels (labels : List Text) (name : Text) :
    driverOptions (flagged "--label" labels ++ [name]) = [] := by
  induction labels with
  | nil => rfl
  | cons label labels ih => exact ih

/-- Driver options are read back, as their keys have no equals sign. -/
lemma driverOptions_options {options : List (Text × Text)}
    (plain : ∀ key ∈ options.map Prod.fst, .char '=' ∉ key) (rest : List Text) :
    driverOptions (flagged "--opt" (options.map assignment) ++ rest) =
      options ++ driverOptions rest := by
  induction options with
  | nil => rfl
  | cons q options ih =>
    obtain ⟨first, others⟩ := List.forall_mem_cons.mp plain
    show readLabel (assignment q) :: driverOptions (flagged _ _ ++ rest) = _
    rw [readLabel_assignment first, ih others]
    rfl

/-- The arguments that create a volume with driver options. -/
def createVolumeArgs (name : Text) (options labels : List (Text × Text)) : List Text :=
  ("--driver" : Text) :: "local" ::
    (flagged "--opt" (options.map assignment) ++ flagged "--label" (labels.map assignment) ++
      [name])

/-- The call that creates a keystore volume binds it to its device. -/
lemma createsBound (name device : Text) (labels : List (Text × Text)) :
    CreatesBound device
      (("volume" : Text) :: "create" :: createVolumeArgs name (bindOptions device) labels) := by
  rintro _ ⟨⟩
  show driverOptions (flagged "--opt" _ ++ flagged "--label" _ ++ [name]) = _
  have plain : ∀ key ∈ (bindOptions device).map Prod.fst, .char '=' ∉ key := by
    show ∀ key ∈ ([("type" : Text), "o", "device"] : List Text), .char '=' ∉ key
    decide
  rw [List.append_assoc, driverOptions_options plain, driverOptions_labels, List.append_nil]

/-- Creates the keystore volume of an order. -/
def bindKeystore (s : Settings) (o : Order) : Run Groundwork := do
  let source := (o.template.keystore?.map (·.source)).getD .null
  let device ← s.hostPath source
  let labels ← Model.writeOf (s.key "volume") secretFields o.models .identity
  createVolume (s.keystoreVolume o) (bindOptions device)
    (Keyed.ofList ((s.key "create-by", "api") :: labels))
  return .keystore (s.keystoreVolume o)

/-- A keystore is laid by binding a volume to it, unless the volume exists. -/
lemma layKeystore_eq (s : Settings) (o : Order) :
    layKeystore s o = volumeExists (s.keystoreVolume o) >>= fun found =>
      if found then pure (.keystore (s.keystoreVolume o)) else bindKeystore s o := rfl

section

variable (kept : o.template.keystore?.map (·.source) = some (.str path))
  (bound : s.hostPath (.str path) = .ok device)

include kept bound

/-- Groundwork for an identity node creates no volume but one that is bound to the directory that
its source stands for. -/
lemma layKeystore_composed : Composed (CreatesBound device) (layKeystore s o) := by
  rw [layKeystore_eq]
  refine .bind (volumeExists_composed_of nofun) fun found => ?_
  split
  · exact .pure _
  unfold bindKeystore
  rw [kept]
  refine .lift_bind (hostPath_ordinary s _) fun found same => ?_
  cases bound.symm.trans same
  exact .bind (.lift (writeOf_ordinary _ _ _ _)) fun _ =>
    .bind (.bind (.run (createsBound _ _ _)) fun _ => .pure _) fun _ => .pure _

/-- The volume is created when it is missing. -/
lemma layKeystore_creates (order : Order.ofTemplate .identity r = .ok o)
    (missing : volumeExists (s.keystoreVolume o) σ = (.ok false, σ₁)) :
    ∃ args reply rest, (layKeystore s o σ).2.log =
      σ₁.log ++ .call (σ₁.binary :: "volume" :: "create" :: args) reply :: rest := by
  have labels := identity_written order (s.key "volume") secretFields
  have begins : ∃ args,
      Begins (fun _ => True) (("volume" : Text) :: "create" :: args) (bindKeystore s o) := by
    unfold bindKeystore
    rw [kept]
    exact ⟨_, .lift_bind bound (.lift_bind labels
      (.bind (.bind (.run trivial) fun _ => .pure _) fun _ => .pure _))⟩
  obtain ⟨args, begins⟩ := begins
  obtain ⟨reply, rest, grew⟩ := begins σ₁
  refine ⟨args, reply, rest, ?_⟩
  rw [layKeystore_eq, run_bind, missing]
  exact grew.log

/-- A creation that finds the volume missing creates one. -/
lemma volume_created {events : List Event} (order : Order.ofTemplate .identity r = .ok o)
    (missing : (volumeExists (s.keystoreVolume o) σ).1 = .ok false)
    (log : (createRunner s .identity r σ).2.log = σ.log ++ events) :
    ∃ e ∈ events, (volumeCreation? e).isSome := by
  rcases looked : volumeExists (s.keystoreVolume o) σ with ⟨outcome, σ₁⟩
  rw [looked] at missing
  cases missing
  obtain ⟨before, grew⟩ := (volumeExists_composed (s.keystoreVolume o)).asks σ
  rw [looked] at grew
  obtain ⟨args, reply, rest, laid⟩ :=
    layKeystore_creates kept bound order looked
  obtain ⟨more, whole⟩ := createRunner_extends (s := s) (σ := σ) order
  have same : σ.log ++ events = σ.log ++
      (before ++ .call (σ₁.binary :: "volume" :: "create" :: args) reply :: (rest ++ more)) := by
    rw [← log, whole]
    show (layKeystore s o σ).2.log ++ more = _
    rw [laid, grew.log]
    simp only [List.append_assoc, List.cons_append]
  rw [List.append_cancel_left same]
  exact ⟨_, List.mem_append_right _ List.mem_cons_self,
    Option.isSome_of_eq_some (volumeCreation?_call _ args reply)⟩

end

/-- Whatever call creates the volume has the options that bind it. -/
lemma driverOptions_of_asks {binary : Text} {e : Event}
    (asks : e.Asks binary (CreatesBound device)) (creates : volumeCreation? e = some args) :
    driverOptions args = bindOptions device := by
  unfold volumeCreation? at creates
  split at creates
  · split at creates
    · rename_i volume
      obtain ⟨rfl, rfl⟩ := volume
      cases creates
      obtain ⟨_, ⟨⟩, bound⟩ := asks
      exact bound _ rfl
    · cases creates
  · cases creates

/-! ## The device of a keystore volume -/

/-- With a keystore root, every volume that the creation of an identity node creates is bound to the
directory that its source stands for, unless the source runs on after the working directory. A
source that begins with the working directory always has that replaced by the root. -/
theorem keystore_device_resolved (s : Settings) (r : Runner) (σ : Session) {root source : Text}
    (rooted : s.docker.keystoreRoot = some root) (given : root ≠ [])
    (kept : r.keystore?.map (·.source) = some (.str source)) :
    ∃ events, (createRunner s .identity r σ).2.log = σ.log ++ events ∧
      (∀ e ∈ events, ∀ args, volumeCreation? e = some args →
        ∃ device, driverOptions args = bindOptions device ∧
          (device = resolved root s.workingDirectory source ↔
            ¬ RunsOn s.workingDirectory source ∨ Text.stripEnd '/' root = s.workingDirectory) ∧
          ∀ rest, source = s.workingDirectory ++ rest → device = Text.stripEnd '/' root ++ rest) ∧
      ∀ o, Order.ofTemplate .identity r = .ok o →
        (volumeExists (s.keystoreVolume o) σ).1 = .ok false →
        ∃ e ∈ events, (volumeCreation? e).isSome := by
  obtain ⟨device, bound⟩ : ∃ device, s.hostPath (.str source) = .ok device :=
    ⟨_, hostPath_eq rooted given⟩
  rcases order : Order.ofTemplate .identity r with e | o
  · rw [createRunner_refused order]
    exact ⟨[], (List.append_nil _).symm, nofun, fun _ ok => absurd ok nofun⟩
  have kept : o.template.keystore?.map (·.source) = some (.str source) := by
    rw [(Order.ofTemplate_ok order).1]
    exact kept
  have confines : Confines σ.binary (CreatesBound device) (createRunner s .identity r) :=
    createRunner_confines_of order (layKeystore_composed kept bound) (.any _) fun _ _ _ asked =>
      .ofCommands (by decide) asked.commands
  obtain ⟨events, -, log, confined⟩ := confines σ rfl
  refine ⟨events, log, fun e mem args creates => ?_, fun o' order' missing => ?_⟩
  · refine ⟨device, ?_, hostPath_resolves_iff rooted given bound, fun rest begins => ?_⟩
    · rcases confined e mem with rfl | asks
      · cases creates
      · exact driverOptions_of_asks asks creates
    · subst begins
      exact Except.ok.inj (bound.symm.trans (hostPath_append rooted given rest))
  · cases order'
    exact volume_created kept bound order missing log

namespace Sample

/-- The settings of a fleet that runs in `/work` with a keystore root. -/
def rootedSettings : Settings :=
  { settings with
    docker := { settings.docker with keystoreRoot := some "/srv/" }
    workingDirectory := "/work" }

/-- A template for an identity node with the given keystore. -/
def keystoreTemplate (source : Text) : Runner :=
  { template with volumes := [⟨.str source, none, true⟩] }

/-- A session without any volume. -/
def emptySession : Session where
  binary := "docker"
  answers :=
    [("volume inspect", [⟨.empty, "Error: no such volume".toUTF8, 1⟩]),
     ("network", [⟨networkDocument.toUTF8, .empty, 0⟩]),
     ("create", [⟨"7c\n".toUTF8, .empty, 0⟩])]
  log := []
  issued := 0

/-- What is asked for an identity node with the given keystore. -/
def keystoreLog (source : Text) : List Event :=
  (createRunner rootedSettings .identity (keystoreTemplate source) emptySession).2.log

end Sample

/-- A keystore in the working directory is bound below the root. -/
theorem keystore_below_root : ∃ e ∈ Sample.keystoreLog "/work/keys", ∃ args,
    volumeCreation? e = some args ∧ driverOptions args = bindOptions "/srv/keys" := by
  obtain ⟨events, log, created, -⟩ := keystore_device_resolved Sample.rootedSettings
    (Sample.keystoreTemplate "/work/keys") Sample.emptySession rfl (by decide) rfl
  have log : Sample.keystoreLog "/work/keys" = events := log
  have creates : (Sample.keystoreLog "/work/keys").any (fun e => (volumeCreation? e).isSome) =
      true := by decide +kernel
  obtain ⟨e, mem, creates⟩ := List.any_eq_true.mp creates
  obtain ⟨args, creation⟩ := Option.isSome_iff_exists.mp creates
  obtain ⟨device, bound, resolves, -⟩ := created e (log ▸ mem) args creation
  have apart : ¬ RunsOn "/work" "/work/keys" := by
    rintro ⟨rest, whole, -, solid⟩
    have below : ("/keys" : Text) = rest :=
      List.append_cancel_left (show ("/work" : Text) ++ "/keys" = "/work" ++ rest from whole)
    exact solid (below ▸ rfl)
  have device_eq : device = "/srv/keys" := (resolves.mpr (.inl apart)).trans (by decide)
  exact ⟨e, mem, args, creation, device_eq ▸ bound⟩

/-- A keystore in a directory whose name begins with that of the working directory is bound to a
third directory. -/
theorem sibling_keystore_misplaced :
    (∃ e ∈ Sample.keystoreLog "/workshop/keys", ∃ args, volumeCreation? e = some args ∧
      driverOptions args = bindOptions "/srvshop/keys") ∧
    resolved "/srv/" "/work" "/workshop/keys" = "/workshop/keys" := by
  refine ⟨?_, by decide⟩
  have bound : ((Sample.keystoreLog "/workshop/keys").filterMap volumeCreation?).map driverOptions =
      [bindOptions "/srvshop/keys"] := by decide +kernel
  obtain ⟨args, mem, device⟩ := List.mem_map.mp (bound ▸ List.mem_singleton_self _)
  obtain ⟨e, logged, creation⟩ := List.mem_filterMap.mp mem
  exact ⟨e, logged, args, creation, device⟩

end Creation

end ProxyFleet
