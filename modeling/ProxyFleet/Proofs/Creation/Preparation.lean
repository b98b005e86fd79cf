import ProxyFleet.Creation.Attempts
import ProxyFleet.Proofs.Docker.Commands
import ProxyFleet.Proofs.Label.Writing

/-!
# Preparing an attempt

Before a container is created, docker is only asked to list, inspect and remove containers and to
deal with volumes and networks. An attempt begins by asking for the containers of its order that
were never started, unless the labels that name the owners cannot be written.
-/

namespace ProxyFleet.Creation
open Docker

/-- The commands that a creation uses before it creates a container. -/
def preparing : List Text := ["ps", "inspect", "rm", "volume", "network"]

/-- The arguments that list the containers of an order that were never started. -/
def staleArgs (s : Settings) (service : Service) (o : Order) : List Text :=
  "ps" :: "--quiet" :: "--no-trunc" :: "--all" ::
    flagged "--filter"
      (assignments "label" (s.projectFilter service :: (s.ownerLabels o).map assignment) ++
        [("status=created" : Text)])

/-- Whether the labels that name the owners of an order can be written. -/
def Order.Writable (o : Order) : Prop := ∀ m ∈ o.models, m.Writes secretFields

/-! ## Steps between the commands -/

/-- A number is checked without interruption. -/
lemma writable_ordinary (n : Int) : Ordinary (writable n) := by
  unfold writable
  split
  · exact .ok _
  · exact .error rfl

/-- The numbers in use are read without interruption. -/
lemma usedNumbers_ordinary (stem : Text) (names : List Text) :
    Ordinary (usedNumbers stem names) := by
  induction names with
  | nil => exact .ok _
  | cons name rest ih =>
    unfold usedNumbers
    split
    · exact ih
    · split
      · exact .error rfl
      · exact ih.map

/-- The ports in use are read without interruption. -/
lemma usedPorts_ordinary (key : Text) (containers : List Container) :
    Ordinary (usedPorts key containers) := by
  have port : ∀ j, Ordinary (readPort j) := by
    intro j
    unfold readPort
    split <;> first | exact .ok _ | exact .error rfl
  induction containers with
  | nil => exact .ok _
  | cons c rest ih =>
    exact (Json.lookupOr_ordinary _ _ _).bind fun _ => (port _).bind fun _ =>
      ih.bind fun _ => .pure _

/-- Labels are not written only for ordinary reasons. -/
lemma writeAll_ordinary (p : Text) (excluded : List Text) (ms : List Model) :
    Ordinary (Model.writeAll p excluded ms) := by
  rintro e failed
  rw [(Model.writeAll_eq_error.mp failed).2]
  rfl

/-- So it is with the labels of an owner. -/
lemma writeOf_ordinary (p : Text) (excluded : List Text) (ms : List Model) (owner : Owner) :
    Ordinary (Model.writeOf p excluded ms owner) := by
  refine FailsWith.bind (Model.find_failsWith rfl) fun m => ?_
  rw [Model.write_eq]
  split
  · exact .ok _
  · exact .error rfl

/-- The labels that name the owners are written when they can be. -/
lemma ownerLabels_written {s : Settings} {o : Order} {labels : List (Text × Text)} :
    Model.writeAll s.docker.keyPrefix secretFields o.models = .ok labels ↔
      o.Writable ∧ s.ownerLabels o = labels :=
  Model.writeAll_eq_ok

/-- A path is resolved without interruption. -/
lemma hostPath_ordinary (s : Settings) (source : Json) : Ordinary (s.hostPath source) := by
  unfold Settings.hostPath
  split
  · split
    · exact .ok _
    · exact .error rfl
  · refine source.asText_ordinary.bind fun _ => ?_
    split <;> exact .pure _

/-- The numbers of the options are refused only for ordinary reasons. -/
lemma checkNumbers_ordinary (s : Settings) (service : Service) :
    Ordinary (checkNumbers s service) := by
  unfold checkNumbers
  induction s.numbers service with
  | nil => exact .ok _
  | cons n rest ih => exact ((writable_ordinary n).bind fun _ => .pure _).bind fun _ => ih

/-! ## What is asked -/

/-- The listings that come before the creation of a container, apart from that of the containers
that were never started. -/
inductive Lists (s : Settings) (service : Service) (o : Order) : Query → Prop where
  /-- The running node of the identity. -/
  | node {labels} : service ≠ .identity →
    Model.writeOf s.docker.keyPrefix ("identity" :: secretFields) o.models .identity = .ok labels →
    Lists s service o
      { labels := s.projectFilter .identity :: labels.map assignment
        status := ["running"]
        stopped := false }
  /-- The containers whose names are taken. -/
  | names : Lists s service o { labels := [s.projectFilter service] }
  /-- The relays whose ports are taken. -/
  | ports : service = .relay → Lists s service o { labels := [s.projectFilter .relay, s.portKey] }

/-- What is listed in preparation is in any state, or runs. -/
lemma Lists.status {s : Settings} {service : Service} {o : Order} {q : Query}
    (h : Lists s service o q) : q.status = [] ∨ q.status = ["running"] := by
  cases h with
  | node => exact .inr rfl
  | names | ports => exact .inl rfl

/-- Whether arguments are what may be asked before a container is created, apart from the listing of
the containers that were never started and their removal. -/
def Preparatory (s : Settings) (service : Service) (o : Order) (args : List Text) : Prop :=
  (∃ q, Lists s service o q ∧ q.toArgs = .ok args) ∨ Commands ["inspect", "volume", "network"] args

namespace Preparatory

variable {s : Settings} {service : Service} {o : Order}

/-- The listings of the preparation are preparatory. -/
lemma list {q : Query} (h : Lists s service o q) : Composed (Preparatory s service o) (list q) :=
  list_composed (fun _ asked => .inl ⟨q, h, asked⟩) fun args asked =>
    .inr (Commands.mono (by decide) args asked)

/-- So are the other commands that it asks for. -/
lemma other {α : Type} {x : Run α} {names : List Text}
    (known : names ⊆ ["inspect", "volume", "network"]) (h : Composed (Commands names) x) :
    Composed (Preparatory s service o) x :=
  h.mono fun args asked => .inr (Commands.mono known args asked)

end Preparatory

/-- A name is allocated after one listing of its project. -/
lemma allocateName_composed {P : List Text → Prop} (s : Settings) (service : Service)
    (listing : ∀ args, Query.toArgs { labels := [s.projectFilter service] } = .ok args → P args)
    (inspects : ∀ args, Commands ["inspect"] args → P args) :
    Composed P (allocateName s service) :=
  .bind (list_composed listing inspects) fun _ =>
    .bind (.lift ((usedNumbers_ordinary _ _).map.bind writable_ordinary)) fun _ => .pure _

/-- An address is allocated after an inspection of the network. -/
lemma allocateAddress_composed (s : Settings) :
    Composed (Commands ["network"]) (allocateAddress s) :=
  .bind (inspectNetwork_composed _) fun info => .lift info.freeAddress_ordinary

/-- A port is chosen after a listing of the ports in use, if after any. -/
lemma choosePort_composed {P : List Text → Prop} {s : Settings} {o : Order}
    (listing : ∀ args, Query.toArgs { labels := [s.projectFilter .relay, s.portKey] } = .ok args →
      P args)
    (inspects : ∀ args, Commands ["inspect"] args → P args) (failed : List Int) :
    Composed P (choosePort s o failed) := by
  have port : Composed P (allocatePort s failed) :=
    .bind (list_composed listing inspects) fun _ =>
      .bind (.lift (usedPorts_ordinary _ _)) fun _ => .lift (writable_ordinary _)
  unfold choosePort
  split
  · split
    · exact port
    · exact .lift (writable_ordinary _)
  · exact port

/-- Everything is allocated by listings and inspections. -/
lemma allocate_composed_of {P : List Text → Prop} {s : Settings} {service : Service} {o : Order}
    (lists : ∀ {q args}, Lists s service o q → q.toArgs = .ok args → P args)
    (others : ∀ args, Commands ["inspect", "network"] args → P args) (failed : List Int) :
    Composed P (allocate s service o failed) := by
  have inspects : ∀ args, Commands ["inspect"] args → P args := fun args asked =>
    others args (Commands.mono (by decide) args asked)
  have address : Composed P (allocateAddress s) :=
    (allocateAddress_composed s).mono fun args asked =>
      others args (Commands.mono (by decide) args asked)
  refine .bind (allocateName_composed s service (fun _ => lists .names) inspects) fun name => ?_
  have checked : ∀ service, Composed P (liftM (checkNumbers s service)) := fun service =>
    .lift (checkNumbers_ordinary s service)
  cases service with
  | connector => exact .bind (checked _) fun _ => .pure _
  | identity => exact .bind address fun _ => .pure _
  | relay =>
    exact .bind address fun _ =>
      .bind (choosePort_composed (fun _ => lists (.ports rfl)) inspects failed) fun _ =>
      .bind (checked _) fun _ => .pure _

/-- So all that allocating asks for is preparatory. -/
lemma allocate_composed (s : Settings) (service : Service) (o : Order) (failed : List Int) :
    Composed (Preparatory s service o) (allocate s service o failed) :=
  allocate_composed_of (fun lists asked => .inl ⟨_, lists, asked⟩)
    (fun args asked => .inr (Commands.mono (by decide) args asked)) failed

/-- The node of a provider is found by preparatory commands. -/
lemma findNode_composed {s : Settings} {service : Service} {o : Order}
    (other : service ≠ .identity) : Composed (Preparatory s service o) (findNode s o) := by
  refine .lift_bind (writeOf_ordinary _ _ _ _) fun labels owners =>
    .bind (Preparatory.list (.node other owners)) ?_
  rintro (_ | ⟨node, _⟩)
  · exact .throw rfl
  · exact .pure _

/-- The groundwork is laid by preparatory commands. -/
lemma layGroundwork_composed (s : Settings) (service : Service) (o : Order) :
    Composed (Preparatory s service o) (layGroundwork s service o) := by
  cases service with
  | connector => exact .bind (findNode_composed (by decide)) fun _ => .pure _
  | relay =>
    refine .bind (findNode_composed (by decide)) fun found => ?_
    split
    · split
      · exact .throw rfl
      · exact .pure _
    · exact .throw rfl
  | identity =>
    refine .bind (Preparatory.other (by decide) (volumeExists_composed _)) fun found => ?_
    split
    · exact .pure _
    · exact .bind (.lift (hostPath_ordinary _ _)) fun _ =>
        .bind (.lift (writeOf_ordinary _ _ _ _)) fun _ =>
        .bind (Preparatory.other (by decide) (createVolume_composed _ _ _)) fun _ => .pure _

/-- Whether a predicate admits the arguments of all that is asked before a container is created,
apart from the query for containers that were never started and their removal. -/
structure Admits (P : List Text → Prop) : Prop where
  listing : ∀ {q : Query} {args}, ("created" : Text) ∉ q.status → q.toArgs = .ok args → P args
  others : ∀ args, Commands ["inspect", "volume", "network"] args → P args

namespace Admits

variable {P : List Text → Prop} (admits : Admits P)

include admits

/-- What admits the listings and the other commands admits everything preparatory. -/
lemma preparatory (s : Settings) (service : Service) (o : Order) (args : List Text) :
    Preparatory s service o args → P args := by
  rintro (⟨q, lists, asked⟩ | asked)
  · refine admits.listing ?_ asked
    rcases lists.status with status | status <;> rw [status] <;> decide
  · exact admits.others args asked

/-- So it admits allocating. -/
lemma allocate (s : Settings) (service : Service) (o : Order) (failed : List Int) :
    Composed P (allocate s service o failed) :=
  (allocate_composed s service o failed).mono (admits.preparatory s service o)

/-- It admits laying the groundwork. -/
lemma layGroundwork (s : Settings) (service : Service) (o : Order) :
    Composed P (layGroundwork s service o) :=
  (layGroundwork_composed s service o).mono (admits.preparatory s service o)

end Admits

/-- The commands of the preparation admit all of it. -/
lemma admits_preparing : Admits (Commands preparing) where
  listing _ h := ⟨"ps", by decide, Query.toArgs_head h⟩
  others := Commands.mono (by decide)

/-- Laying the groundwork asks for these commands only. -/
lemma layGroundwork_asks (s : Settings) (service : Service) (o : Order) :
    Asks (Commands preparing) (layGroundwork s service o) :=
  (admits_preparing.layGroundwork s service o).asks

/-- The containers of an order that were never started. -/
def staleQuery (s : Settings) (service : Service) (o : Order) : Query where
  labels := s.projectFilter service :: (s.ownerLabels o).map assignment
  status := ["created"]

/-- Stale containers can be listed. -/
lemma staleQuery_toArgs (s : Settings) (service : Service) (o : Order) :
    (staleQuery s service o).toArgs = .ok (staleArgs s service o) := by
  simp [staleQuery, Query.toArgs, nameFilter, Json.isBlank, staleArgs, switch, assignments]
  rfl

/-- The containers that are found are removed, and nothing else is done to them. -/
lemma removeFound_composed (containers : List Container) :
    Composed (Commands ["rm"]) (containers.forM fun c =>
      match c.id with
      | .str id => remove id true true
      | _ => throw .wrongType) := by
  refine .forM _ fun c _ => ?_
  split
  · exact remove_composed _ _ _
  · exact .throw rfl

/-- The containers that were never started are looked for first, if the labels of their owners can
be written. -/
lemma removeStale_begins {s : Settings} {o : Order} (service : Service) (writable : o.Writable) :
    Begins (Commands preparing) (staleArgs s service o) (removeStale s service o) := by
  refine .lift_bind (ownerLabels_written.mpr ⟨writable, rfl⟩) (.bind
    (list_begins (staleQuery_toArgs s service o) ?_ (Commands.mono (by decide))) fun stale => ?_)
  · exact ⟨"ps", by decide, rfl⟩
  · exact (removeFound_composed stale).asks.mono (Commands.mono (by decide))

/-- Stale containers are removed after a listing of them. -/
lemma removeStale_composed {P : List Text → Prop} {s : Settings} {service : Service} {o : Order}
    (stale : P (staleArgs s service o))
    (removes : ∀ args, Commands ["inspect", "rm"] args → P args) :
    Composed P (removeStale s service o) := by
  have others : ∀ {names : List Text}, names ⊆ ["inspect", "rm"] →
      ∀ args, Commands names args → P args :=
    fun known args asked => removes args (Commands.mono known args asked)
  refine .lift_bind (writeAll_ordinary _ _ _) fun owners written => ?_
  obtain ⟨-, rfl⟩ := ownerLabels_written.mp written
  refine .bind (list_composed (fun args asked => ?_) (others (by decide))) fun found => ?_
  · cases (staleQuery_toArgs s service o).symm.trans asked
    exact stale
  · exact (removeFound_composed found).mono (others (by decide))

/-- An attempt is prepared by the listing and the removal of the containers that were never started,
and by an allocation. -/
lemma prepareAttempt_composed_of {P : List Text → Prop} {s : Settings} {service : Service}
    {o : Order} (stale : P (staleArgs s service o))
    (lists : ∀ {q args}, Lists s service o q → q.toArgs = .ok args → P args)
    (others : ∀ args, Commands ["inspect", "rm", "network"] args → P args) (failed : List Int) :
    Composed P (prepareAttempt s service o failed) := by
  have some : ∀ {names : List Text}, names ⊆ ["inspect", "rm", "network"] →
      ∀ args, Commands names args → P args :=
    fun known args asked => others args (Commands.mono known args asked)
  exact .bind (removeStale_composed stale (some (by decide))) fun _ =>
    allocate_composed_of lists (some (by decide)) failed

/-- An attempt is prepared by these commands only. -/
lemma prepareAttempt_composed (s : Settings) (service : Service) (o : Order) (failed : List Int) :
    Composed (Commands preparing) (prepareAttempt s service o failed) :=
  prepareAttempt_composed_of ⟨"ps", by decide, rfl⟩
    (fun _ asked => ⟨"ps", by decide, Query.toArgs_head asked⟩) (Commands.mono (by decide)) failed

/-- What an attempt asks before it creates a container, and what it comes to, when the labels that
name the owners can be written. -/
structure Preparation (s : Settings) (service : Service) (o : Order) (failed : List Int)
    (σ : Session) (outcome : Except Failure Allocation) (events : List Event) : Prop where
  written : o.Writable
  ended : (prepareAttempt s service o failed σ).1 = outcome
  queried : ∃ reply rest, events = .call (σ.binary :: staleArgs s service o) reply :: rest
  asks : ∀ e ∈ events, e.Asks σ.binary (Commands preparing)

/-- An attempt begins by asking for the containers of its order that were never started, if the
labels of their owners can be written. -/
lemma prepareAttempt_begins {s : Settings} {o : Order} (service : Service) (writable : o.Writable)
    (failed : List Int) :
    Begins (Commands preparing) (staleArgs s service o) (prepareAttempt s service o failed) :=
  .bind (removeStale_begins service writable) fun _ =>
    (admits_preparing.allocate s service o failed).asks

/-- It asks nothing when they cannot be written. -/
lemma prepareAttempt_unwritten {s : Settings} {o : Order} (service : Service)
    (spoilt : ¬ o.Writable) (failed : List Int) (σ : Session) :
    prepareAttempt s service o failed σ = (.error .badNumeral, σ) := by
  have unwritten : Model.writeAll s.docker.keyPrefix secretFields o.models = .error .badNumeral :=
    Model.writeAll_eq_error.mpr ⟨spoilt, rfl⟩
  rw [prepareAttempt, removeStale, unwritten]
  rfl

end ProxyFleet.Creation
