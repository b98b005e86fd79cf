import ProxyFleet.Discovery
import ProxyFleet.Proofs.Creation.ContainerLabels
import ProxyFleet.Proofs.Creation.Retries
import ProxyFleet.Proofs.Creation.Success
import ProxyFleet.Proofs.Docker.Inspection
import ProxyFleet.Proofs.Runner

/-!
# Created runners are discovered

A runner that has been created is found again: what docker shows of its container, which was made
from the arguments of the create command alone, is read back as the same runner.
-/

namespace ProxyFleet.Creation
open Docker

variable {s : Settings} {service : Service} {o : Order} {g : Groundwork} {id key name v : Text}
  {a : Allocation} {labels : List (Text × Text)} {r result : Runner} {σ σ' : Session}

/-! ## The specification of a container -/

/-- A container is specified under the name that was allocated. -/
lemma specOf_name : (specOf s o g id a).name = a.name := by
  cases g <;> rfl

/-- The labels that a container is specified with mark it. -/
lemma specOf_marked (fits : g.Fits service) (wf : ∀ m ∈ o.models, m.WellFormed) :
    Marked s service o id (specOf s o g id a).labels := by
  cases service <;> cases g <;> try exact fits.elim
  case identity.keystore => exact containerLabels_marked wf
  case connector.node => exact containerLabels_marked wf
  case relay.address => exact (containerLabels_marked wf).publish _

/-- The container of a relay has the label of its published port. -/
lemma specOf_port (fits : g.Fits .relay) :
    Keyed.get? s.portKey (specOf s o g id a).labels = some (Text.numeral (a.port.getD 0)) := by
  cases g <;> try exact fits.elim
  exact (Keyed.get?_put _ _ _ _).trans (if_pos rfl)

/-- All containers but connectors are attached to the fleet's network, at their address. -/
lemma specOf_network (s : Settings) (o : Order) (id : Text) (a : Allocation)
    (fits : g.Fits service) (attached : service ≠ .connector) :
    (specOf s o g id a).network = some s.docker.network ∧
      (specOf s o g id a).address = a.address := by
  cases service <;> cases g <;> try exact fits.elim
  case connector.node => exact absurd rfl attached
  all_goals exact ⟨rfl, rfl⟩

/-- Whatever the image and the command of a container are taken for, there is no point in its
value. -/
lemma specOf_stray : ∀ q ∈ readOptions ((specOf s o g id a).image :: (specOf s o g id a).command),
    .char '.' ∉ q.2 := by
  -- only the image can be taken for an option, and the first argument for its value
  have one : ∀ {image first : Text} {rest : List Text}, readOptions rest = [] →
      .char '.' ∉ first → ∀ q ∈ readOptions (image :: first :: rest), .char '.' ∉ q.2 := by
    intro image first rest none plain q mem
    rw [readOptions, none] at mem
    split at mem
    · cases List.mem_singleton.mp mem
      exact plain
    · cases mem
  cases g with
  | keystore => exact one rfl (by decide)
  | node =>
    intro q mem
    exact absurd mem List.not_mem_nil
  | address =>
    apply one rfl
    intro mem
    rcases List.mem_append.mp mem with mem | mem
    · rcases List.mem_append.mp mem with mem | mem
      · exact absurd mem (by decide)
      · exact Text.not_mem_numeral (by decide) (by decide) mem
    · exact absurd mem (by decide)

/-! ## Reading what docker shows -/

/-- A label that docker shows is the text that it was given. -/
lemma lookup_shownLabels (h : Keyed.get? key labels = some v) :
    (Json.obj (shownLabels labels)).lookup key = .ok (.str v) := by
  rw [Json.lookup, get?_shownLabels, h]
  rfl

/-- A runner is read from the labels of its container. -/
lemma runnerOf?_eq {c : Container} {addresses : List (Text × Json)} {type : SocketType}
    {port : Option Int} (shown : c.labels = .obj (shownLabels labels)) (mounts : c.mounts = [])
    (project : Keyed.get? (s.key "project") labels = some service.name)
    (socket : Discovery.socketOf s service c.labels = .ok (type, port)) :
    Discovery.runnerOf? s addresses c = .ok (some
      { service
        id := (Keyed.get? (s.key "id") (shownLabels labels)).getD .null
        serial := c.id
        name := some c.name
        socketType := type
        socketUri := Discovery.socketUri s addresses c
        socketPort := port
        volumes := []
        status := .ofDockerState c.status
        label := .ofFlat s.docker.keyPrefix (shownLabels labels)
        insertDate := c.created }) := by
  unfold Discovery.runnerOf?
  rw [shown] at socket ⊢
  rw [lookup_shownLabels project, mounts]
  simp only [ok_bind, Service.ofJson?_name, socket]
  rfl

/-- The port that a relay publishes is read from its label. -/
lemma publishedPort_eq {port : Int} (h : Keyed.get? s.portKey labels = some (Text.numeral port))
    (natural : 0 ≤ port) (can : Text.hasNumeral port) :
    Discovery.publishedPort s (.obj (shownLabels labels)) = .ok (some port) := by
  have some : (Json.str (Text.numeral port)).isBlank = false := by
    simpa [Json.isBlank] using Text.numeral_ne_nil port
  have digits : (Text.numeral port).all Text.isDigitLike = true :=
    List.all_eq_true.mpr fun d mem => by
      rw [Text.isDigitLike, Text.all_isDecimal_numeral natural d mem, Bool.true_or]
  unfold Discovery.publishedPort
  simp only [lookup_shownLabels h, ok_bind, some, Json.asText, digits, if_true,
    Text.readInt?_numeral can]
  rfl

/-! ## Labels that docker keeps -/

section

variable {spec : Spec} {more : List (Text × Text)} (marked : Marked s service o id spec.labels)
  (plain : .char '=' ∉ s.docker.keyPrefix) (stray : ∀ q ∈ more, .char '.' ∉ q.2)

include marked plain stray

/-- Docker keeps every label of the specification under whose key there is a point. -/
lemma get?_kept (point : .char '.' ∈ key) :
    Keyed.get? key (optionLabels (spec.options ++ more)) = Keyed.get? key spec.labels := by
  refine spec.get?_optionLabels more (fun q mem => ?_) marked.nodup fun mem => ?_
  · exact (marked.known q.1 (List.mem_map_of_mem mem)).not_mem_equals plain
  · obtain ⟨_, pair, rfl⟩ := List.mem_map.mp mem
    obtain ⟨q, option, rfl⟩ := List.mem_map.mp pair
    exact stray q (List.mem_of_mem_filter option) (List.takeWhile_subset _ point)

/-- Docker keeps no other label under whose key there is a point. -/
lemma known_kept (mem : key ∈ Keyed.keys (optionLabels (spec.options ++ more)))
    (point : .char '.' ∈ key) : LabelKey s key := by
  obtain ⟨v, found⟩ := Keyed.exists_get?_of_mem mem
  rw [get?_kept marked plain stray point] at found
  exact marked.known key (List.mem_map_of_mem (Keyed.mem_of_get? found))

/-- The keys of the labels that docker keeps are hyphenated. -/
lemma hyphenated_kept :
    Hyphenated s.docker.keyPrefix (Keyed.keys (optionLabels (spec.options ++ more))) := by
  intro x y _ _ _ single mem
  exact (known_kept marked plain stray mem (point_mem _ y)).not_mem_underscore single

end

/-! ## Discovery -/

/-- The slash that docker puts in front of a name is taken off again. -/
lemma stripStart_slash (h : name.head? ≠ some (.char '/')) :
    Text.stripStart '/' ("/" ++ name) = name := by
  cases name with
  | nil => rfl
  | cons c rest =>
    have other : c ≠ .char '/' := fun eq => h (congrArg some eq)
    show List.dropWhile _ (.char '/' :: c :: rest) = c :: rest
    simp [other]

/-- An allocated name begins with a slash only if its prefix does. -/
lemma Allocation.Fits.head (fits : a.Fits s service)
    (h : (s.namePrefix service).head? ≠ some (.char '/')) : a.name.head? ≠ some (.char '/') := by
  obtain ⟨n, name⟩ := fits.name
  rw [name]
  rcases stem : s.namePrefix service with _ | ⟨c, rest⟩
  · exact (by decide : some (Symbol.char '-') ≠ some (.char '/'))
  · rw [stem] at h
    exact h

/-- How a created runner is reached is read from the labels of its container. -/
lemma socketOf_shownLabels (fits : g.Fits service) (allocated : a.Fits s service)
    {container : Text} (natural : ∀ port, (runnerOf s service o id container a).socketPort =
      some port → 0 ≤ port)
    (same : Keyed.get? s.portKey labels = Keyed.get? s.portKey (specOf s o g id a).labels) :
    Discovery.socketOf s service (.obj (shownLabels labels)) =
      .ok ((runnerOf s service o id container a).socketType,
        (runnerOf s service o id container a).socketPort) := by
  cases service with
  | identity => rfl
  | connector => rfl
  | relay =>
    obtain ⟨port, chosen, can⟩ := allocated.port rfl
    rw [specOf_port fits, chosen] at same
    have read := publishedPort_eq same (natural port chosen) can
    have tcp : Discovery.socketOf s .relay (.obj (shownLabels labels)) = .ok (.tcp, some port) := by
      rw [Discovery.socketOf, read]
      rfl
    rw [tcp, ← chosen]
    rfl

/-- A container that is attached to the network of the fleet is reached at its address there. -/
lemma socketUri_attached {c : Container} {addresses : List (Text × Json)} {address : Text}
    (networks : c.networks = shownLabels [(s.docker.network, address)]) (some : address ≠ []) :
    Discovery.socketUri s addresses c = .str address := by
  have shown : (Json.str address).isBlank = false := by simpa [Json.isBlank] using some
  unfold Discovery.socketUri
  rw [networks]
  simp [shownLabels, Keyed.get?, shown]

/-- A container whose service is attached to the network of the fleet is attached to it alone, at
the address of its runner. -/
lemma optionNetworks_specOf (o : Order) (id container : Text) (fits : g.Fits service)
    (allocated : a.Fits s service) (attached : service ≠ .connector) (named : s.docker.network ≠ [])
    (own : sharesNetwork s.docker.network = false)
    (some : (runnerOf s service o id container a).socketUri ≠ .str []) :
    ∃ address ≠ [], (runnerOf s service o id container a).socketUri = .str address ∧
      optionNetworks (readOptions ((createArgs s o g id a).drop 1)) =
        [(s.docker.network, address)] := by
  obtain ⟨address, chosen⟩ := allocated.address attached
  have uri : (runnerOf s service o id container a).socketUri = .str address := by
    cases service with
    | connector => exact absurd rfl attached
    | identity | relay => exact congrArg (fun address => address.elim Json.null .str) chosen
  have some : address ≠ [] := fun none => some (none ▸ uri)
  obtain ⟨network, place⟩ := specOf_network s o id a fits attached
  have network : present (specOf s o g id a).network = [s.docker.network] := by
    simp [network, present, named]
  have place : present (specOf s o g id a).address = [address] := by
    simp [place, chosen, present, some]
  refine ⟨address, some, uri, ?_⟩
  rw [createArgs, Spec.readOptions_toArgs, optionNetworks, Spec.optionValue?_network _ _ network,
    Spec.optionValue?_address _ _ place]
  simp [own]

/-- What every created runner has, whatever its service. -/
lemma runnerOf_eq (s : Settings) (service : Service) (o : Order) (id container : Text)
    (a : Allocation) :
    (runnerOf s service o id container a).service = service ∧
      (runnerOf s service o id container a).id = .str id ∧
      (runnerOf s service o id container a).serial = .str container ∧
      (runnerOf s service o id container a).name = some a.name ∧
      (runnerOf s service o id container a).status = .running := by
  cases service <;> exact ⟨rfl, rfl, rfl, rfl, rfl⟩

/-- The label that docker keeps names the owners of the template with the same fields, the
passphrase apart. -/
lemma exists_read_kept {more : List (Text × Text)} (faithful : Order.Faithful r o)
    (fits : g.Fits service) (plain : .char '=' ∉ s.docker.keyPrefix)
    (stray : ∀ q ∈ more, .char '.' ∉ q.2) (written : o.Writable) :
    ∃ ms', (Label.ofFlat s.docker.keyPrefix
        (shownLabels (optionLabels ((specOf s o g id a).options ++ more)))).read = .ok ms' ∧
      (∀ m ∈ ms', m.Writes []) ∧ ∀ key, Keyed.get? key (Model.flatAll s.docker.keyPrefix [] ms') =
        Keyed.get? key (Model.flatAll s.docker.keyPrefix secretFields o.models) := by
  have wf := Label.wellFormed_of_read faithful.models
  have marked : Marked s service o id (specOf s o g id a).labels := specOf_marked fits wf
  have agree : ∀ {owner : Owner} {f : Field}, f ∈ owner.fields →
      Keyed.get? (fieldKey s.docker.keyPrefix owner f.name)
          (optionLabels ((specOf s o g id a).options ++ more)) =
        Keyed.get? (fieldKey s.docker.keyPrefix owner f.name) (s.ownerLabels o) := by
    intro owner f known
    have point : .char '.' ∈ fieldKey s.docker.keyPrefix owner f.name := point_mem _ _
    rw [get?_kept marked plain stray point, marked.fields known]
  obtain ⟨identity, mem, owner, named⟩ := faithful.identity
  have known : (⟨"id", .text⟩ : Field) ∈ identity.owner.fields := by
    rw [owner]
    decide
  have shown := Model.isSome_get?_flatAll (p := s.docker.keyPrefix) wf mem known
    (by decide : ("id" : Text) ∉ secretFields) named
  exact exists_read_agreeing (Keyed.nodup_ofList _) (hyphenated_kept marked plain stray) wf
    written agree known (by rw [agree known]; exact shown)

/-- A runner that was created is discovered. From what docker shows of the container that it was
last told to create, a runner of the same kind, identifier, name, port and condition is read, at the
same address unless it is a connector; the network of the fleet must have a name for that, and not
one of the form `container:<id>`, which stands for the network of another container. Its label can
be read, and names the same owners with the same fields as the template did, the passphrase
apart. -/
theorem created_runner_discovered (created : createRunner s service r σ = (.ok result, σ'))
    (plain : .char '=' ∉ s.docker.keyPrefix)
    (unslashed : (s.namePrefix service).head? ≠ some (.char '/'))
    (natural : ∀ port, result.socketPort = some port → 0 ≤ port) :
    ∃ args c, lastCreation σ'.log = some args ∧
      Container.ofJson (runningDocument result.serial (readOptions args)) = .ok c ∧
      ∀ addresses, ∃ found, Discovery.runnerOf? s addresses c = .ok (some found) ∧
        found.service = result.service ∧ found.id = result.id ∧ found.serial = result.serial ∧
        found.name = result.name ∧ found.socketType = result.socketType ∧
        found.socketPort = result.socketPort ∧ found.status = result.status ∧
        (service ≠ .connector → s.docker.network ≠ [] → sharesNetwork s.docker.network = false →
          result.socketUri ≠ .str [] → found.socketUri = result.socketUri) ∧
        ∃ ms ms' labels labels', r.label.read = .ok ms ∧ found.label.read = .ok ms' ∧
          Model.writeAll s.docker.keyPrefix secretFields ms = .ok labels ∧
          Model.writeAll s.docker.keyPrefix [] ms' = .ok labels' ∧
          ∀ key, Keyed.get? key labels' = Keyed.get? key labels := by
  obtain ⟨o, g, id, container, a, faithful, written, fits, allocated, rfl, last⟩ :=
    createRunner_ok created
  have marked : Marked s service o id (specOf s o g id a).labels :=
    specOf_marked fits (Label.wellFormed_of_read faithful.models)
  have stray : ∀ q ∈ readOptions ((specOf s o g id a).image :: (specOf s o g id a).command),
      .char '.' ∉ q.2 := specOf_stray
  have kept : ∀ {name : Text}, Keyed.get? (s.key name) (optionLabels (readOptions
      ((createArgs s o g id a).drop 1))) = Keyed.get? (s.key name) (specOf s o g id a).labels := by
    intro name
    rw [createArgs, Spec.readOptions_toArgs]
    exact get?_kept marked plain stray (point_mem _ name)
  have named : optionValue? "--name" (readOptions ((createArgs s o g id a).drop 1)) =
      some a.name := by
    rw [createArgs, Spec.readOptions_toArgs, Spec.optionValue?_name, specOf_name]
  have socket := socketOf_shownLabels fits allocated natural kept
  have attached := optionNetworks_specOf o id container fits allocated
  have project := kept.trans marked.project
  have identifier := kept.trans marked.id
  have label : ∃ ms', (Label.ofFlat s.docker.keyPrefix (shownLabels
      (optionLabels (readOptions ((createArgs s o g id a).drop 1))))).read = .ok ms' ∧
      (∀ m ∈ ms', m.Writes []) ∧ ∀ key, Keyed.get? key (Model.flatAll s.docker.keyPrefix [] ms') =
        Keyed.get? key (Model.flatAll s.docker.keyPrefix secretFields o.models) := by
    rw [createArgs, Spec.readOptions_toArgs]
    exact exists_read_kept faithful fits plain stray written
  -- from here on the options are known by these facts alone
  refine ⟨_, _, last, ofJson_runningDocument _ _, fun addresses => ?_⟩
  generalize readOptions ((createArgs s o g id a).drop 1) = options at *
  obtain ⟨ofService, ofId, ofSerial, ofName, ofStatus⟩ := runnerOf_eq s service o id container a
  refine ⟨_, runnerOf?_eq rfl rfl project socket, ofService.symm, ?_, rfl, ?_, rfl, rfl, ?_, ?_,
    ?_⟩
  · rw [ofId, get?_shownLabels, identifier]
    rfl
  · have unslashed : Text.stripStart '/' ("/" ++ a.name) = a.name :=
      stripStart_slash (allocated.head unslashed)
    rw [ofName, named]
    exact congrArg some unslashed
  · rw [ofStatus]
    rfl
  · intro service network own some
    obtain ⟨address, some, uri, networks⟩ := attached service network own some
    rw [uri]
    exact socketUri_attached (congrArg shownLabels networks) some
  · obtain ⟨ms', read, writes, same⟩ := label
    exact ⟨o.models, ms', _, _, faithful.models, read, Model.writeAll_eq_ok.mpr ⟨written, rfl⟩,
      Model.writeAll_eq_ok.mpr ⟨writes, rfl⟩, same⟩

/-- The runner that is created in the second round of the sample session is discovered. -/
theorem sample_runner_discovered :
    ∃ (result : Runner) (σ' : Session) (args : List Text) (c : Container),
      createRunner Sample.settings .identity Sample.template Sample.session = (.ok result, σ') ∧
      lastCreation σ'.log = some args ∧
      Container.ofJson (runningDocument result.serial (readOptions args)) = .ok c ∧
      ∀ addresses, ∃ found, Discovery.runnerOf? Sample.settings addresses c = .ok (some found) ∧
        found.id = result.id ∧ found.socketPort = some 4449 ∧
        found.socketUri = result.socketUri := by
  have ports : (createRunner Sample.settings .identity Sample.template
      Sample.session).1.toOption.map (·.socketPort) = some (some 4449) := by decide +kernel
  have addressed : (createRunner Sample.settings .identity Sample.template
      Sample.session).1.toOption.map (·.socketUri.isBlank) = some false := by decide +kernel
  rcases created : createRunner Sample.settings .identity Sample.template Sample.session with
    ⟨e | result, σ'⟩
  · rw [created] at ports
    cases ports
  rw [created] at ports addressed
  have port : result.socketPort = some 4449 := Option.some.inj ports
  have natural : ∀ n, result.socketPort = some n → 0 ≤ n := by
    intro n chosen
    cases chosen.symm.trans port
    decide
  obtain ⟨args, c, last, shown, all⟩ := created_runner_discovered created (by decide) (by decide)
    natural
  refine ⟨result, σ', args, c, rfl, last, shown, fun addresses => ?_⟩
  obtain ⟨found, read, -, id, -, -, -, samePort, -, uri, -⟩ := all addresses
  refine ⟨found, read, id, samePort.trans port, uri (by decide) (by decide) (by decide) ?_⟩
  intro none
  have addressed : result.socketUri.isBlank = false := Option.some.inj addressed
  rw [none] at addressed
  cases addressed

end ProxyFleet.Creation
