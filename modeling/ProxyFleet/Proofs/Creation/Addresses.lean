import ProxyFleet.Proofs.Creation.Attempts
import ProxyFleet.Proofs.Creation.Discovered
import ProxyFleet.Proofs.Docker.Pools

/-!
# Addresses of identity nodes and relays

Before an attempt creates the container of an identity node or of a relay, it inspects the network
of the fleet, and it gives the container the least free host of the first address pool that the
network is described by. Neither looks at the family of that pool.
-/

namespace ProxyFleet.Creation
open Docker

variable {s : Settings} {service : Service} {o : Order} {g : Groundwork} {failed : List Int}
  {binary name address : Text} {args : List Text} {info : NetworkInfo} {e : Event} {t : Round}
  {events before after : List Event} {σ σ' : Session} {α : Type}

/-! ## Inspections of the network -/

/-- The arguments that inspect a network. -/
def networkArgs (name : Text) : List Text := ["network", "inspect", name]

/-- A network is inspected by reading what docker prints of it. -/
lemma run_inspectNetwork (name : Text) (σ : Session) : (inspectNetwork name σ).1 =
    (run (networkArgs name) σ).1.bind (NetworkInfo.read name) := by
  unfold inspectNetwork
  rw [run_bind]
  show _ = (run (networkArgs name) σ).1.bind _
  unfold networkArgs
  rcases run ["network", "inspect", name] σ with ⟨_ | _, _⟩ <;> rfl

/-- An inspection gives what the first pool tells. -/
lemma inspectNetwork_eq_ok : (inspectNetwork name σ).1 = .ok info ↔ ∃ out pool more held,
    (run (networkArgs name) σ).1 = .ok out ∧ Describes out (pool :: more) held ∧
      NetworkInfo.ofPool? name held pool = some info := by
  rw [run_inspectNetwork]
  constructor
  · intro h
    obtain ⟨out, answered, read⟩ := bind_eq_ok.mp h
    obtain ⟨pool, more, held, described, told⟩ := NetworkInfo.read_eq_ok.mp read
    exact ⟨out, pool, more, held, answered, described, told⟩
  · rintro ⟨out, pool, more, held, answered, described, told⟩
    rw [answered]
    exact NetworkInfo.read_eq_ok.mpr ⟨pool, more, held, described, told⟩

/-- Whether the network of the fleet was inspected in the course of events, and is told by the first
of its pools. -/
inductive Inspected (s : Settings) (binary : Text) : List Event → NetworkInfo → Prop where
  | mk {before after : List Event} {reply : Reply} {out : Text} {pool : Json} {more : List Json}
    {held : List Text} {info : NetworkInfo} :
    reply.result (networkArgs s.docker.network) = .ok out → Describes out (pool :: more) held →
    NetworkInfo.ofPool? s.docker.network held pool = some info →
    Inspected s binary
      (before ++ .call (binary :: networkArgs s.docker.network) reply :: after) info

/-- Other events may come before and after. -/
lemma Inspected.extend (h : Inspected s binary events info) (earlier later : List Event) :
    Inspected s binary (earlier ++ (events ++ later)) info := by
  cases h with
  | @mk before after reply _ _ _ _ _ answered described told =>
    have parts : earlier ++ (before ++ .call (binary :: networkArgs s.docker.network) reply ::
        after ++ later) = (earlier ++ before) ++
          .call (binary :: networkArgs s.docker.network) reply :: (after ++ later) := by
      simp
    rw [parts]
    exact .mk answered described told

/-- An address is allocated from the network as it is inspected. -/
lemma allocateAddress_leaves (s : Settings) :
    Leaves binary (fun events r => ∀ address, r = .ok address → ∃ info,
      Inspected s binary events info ∧ info.freeAddress = .ok address) (allocateAddress s) := by
  have inspects : Leaves binary (fun events r => ∀ info, r = .ok info →
      Inspected s binary events info) (inspectNetwork s.docker.network) := by
    refine .bind (.run (networkArgs s.docker.network)) nofun ?_
    rintro _ out ⟨reply, rfl, answered⟩
    refine .lift fun info read => ?_
    obtain ⟨pool, more, held, described, told⟩ := NetworkInfo.read_eq_ok.mp read
    show Inspected s binary ([] ++ _ :: []) info
    exact .mk answered.symm described told
  refine .bind inspects nofun fun events info inspected => .lift fun address given => ?_
  exact ⟨info, by simpa using inspected info rfl, given⟩

/-! ## Addresses that are allocated -/

/-- What an operation that allocates leaves: the address that it comes to is given out by the
network as it was inspected meanwhile. -/
def Addresses (s : Settings) (binary : Text) (events : List Event)
    (r : Except Failure Allocation) : Prop :=
  ∀ a, r = .ok a → ∃ info address, Inspected s binary events info ∧
    info.freeAddress = .ok address ∧ a.address = some address

/-- Whatever else is asked before, the network is inspected meanwhile. -/
lemma Leaves.addresses_bind {P : List Text → Prop} {x : Run α} {f : α → Run Allocation}
    (hx : Composed P x) (hf : ∀ b, Leaves binary (Addresses s binary) (f b)) :
    Leaves binary (Addresses s binary) (x >>= f) := by
  refine .bind (.ofAsks hx.asks) nofun fun before b _ => (hf b).mono ?_
  intro events r addresses a eq
  obtain ⟨info, address, inspected, given, chosen⟩ := addresses a eq
  exact ⟨info, address, by simpa using inspected.extend before [], given, chosen⟩

/-- An attempt for an identity node or a relay is prepared with an address of the network. -/
lemma prepareAttempt_addresses (attached : service ≠ .connector) :
    Leaves binary (Addresses s binary) (prepareAttempt s service o failed) := by
  refine Leaves.addresses_bind (P := fun _ => True)
    (removeStale_composed trivial fun _ _ => trivial) fun _ => ?_
  refine Leaves.addresses_bind (P := fun _ => True)
    (allocateName_composed s service (fun _ _ => trivial) fun _ _ => trivial) fun name => ?_
  cases service with
  | connector => exact absurd rfl attached
  | identity =>
    refine .bind (allocateAddress_leaves s) nofun fun events address given => .pure ?_
    rintro _ ⟨⟩
    obtain ⟨info, inspected, free⟩ := given address rfl
    exact ⟨info, address, by simpa using inspected, free, rfl⟩
  | relay =>
    refine .bind (allocateAddress_leaves s) nofun fun events address given => ?_
    refine .bind (.ofAsks (choosePort_composed (P := fun _ => True) (fun _ _ => trivial)
      (fun _ _ => trivial) failed).asks) nofun fun more port _ =>
      .lift_bind (fun _ _ => nofun) fun _ _ => .pure ?_
    rintro _ ⟨⟩
    obtain ⟨info, inspected, free⟩ := given address rfl
    exact ⟨info, address, by simpa using inspected.extend [] more, free, rfl⟩

/-! ## Containers at addresses -/

/-- Whether arguments create a container at the address that a network gives out, the least of its
free hosts. It belongs to the family of the network. -/
def PlacedIn (info : NetworkInfo) (args : List Text) : Prop :=
  ∃ network, readNetwork info.subnet = .ok network ∧
    ((∀ v zone, network.base ≠ .v6 v (some zone)) → ∃ a,
      optionValue? "--ip" (readOptions args) = some a.text ∧ readAddress (.str a.text) = .ok a ∧
        info.Free network a ∧ (∀ b, info.Free network b → a.value ≤ b.value) ∧
        ∀ v, network.base = .v4 v → ∃ w, a = .v4 w)

/-- A container that is attached to a network with a chosen address is placed in it. -/
lemma createArgs_placed {id : Text} {a : Allocation} (fits : g.Fits service)
    (attached : service ≠ .connector) (given : info.freeAddress = .ok address)
    (chosen : a.address = some address) :
    PlacedIn info ((createArgs s o g id a).drop 1) := by
  obtain ⟨network, subnet, free⟩ := NetworkInfo.free_of_freeAddress given
  refine ⟨network, subnet, fun unscoped => ?_⟩
  obtain ⟨a', rfl, read, free, least⟩ := free unscoped
  have some : a'.text ≠ [] := by
    intro none
    rw [none] at read
    cases read
  have place : present (specOf s o g id a).address = [a'.text] := by
    simp [(specOf_network s o id a fits attached).2, chosen, present, some]
  refine ⟨a', ?_, read, free, least, ?_⟩
  · rw [createArgs, Spec.readOptions_toArgs, Spec.optionValue?_address _ _ place]
  · intro v family
    obtain ⟨base, length⟩ := network
    cases family
    cases free.host
    exact ⟨_, rfl⟩

/-- What comes before the creation of a container in a round is all of its preparation, if not
more. -/
lemma prefix_of_creation {prepared following : List Event}
    (quiet : ∀ e ∈ prepared, creation? e = none) (creation : creation? e = some args)
    (eq : prepared ++ following = before ++ e :: after) :
    ∃ more, before = prepared ++ more ∧ following = more ++ e :: after := by
  rcases List.append_eq_append_iff.mp eq with ⟨more, rfl, rfl⟩ | ⟨more, rfl, parts⟩
  · exact ⟨more, rfl, rfl⟩
  · cases more with
    | nil => exact ⟨[], by simp, by simpa using parts.symm⟩
    | cons e' more =>
      cases (List.cons.inj parts).1
      have created : e ∈ before ++ e :: more := List.mem_append_right _ List.mem_cons_self
      cases (quiet e created).symm.trans creation

/-- The container of a round is placed in the network that was inspected before. -/
lemma Round.Made.placed (made : t.Made s service o g failed σ σ') (fits : g.Fits service)
    (attached : service ≠ .connector) (eq : t.events = before ++ e :: after)
    (creation : creation? e = some args) :
    ∃ info, Inspected s σ.binary before info ∧ PlacedIn info args := by
  obtain ⟨allocated, prepared, following, events, ⟨addresses, asks⟩, -, follows⟩ :=
    made.prepared (Leaves.and (prepareAttempt_addresses attached)
      (.ofAsks (prepareAttempt_composed s service o failed).asks))
  have quiet : ∀ e ∈ prepared, creation? e = none := fun e mem =>
    creation?_eq_none (by decide) (asks e mem)
  obtain ⟨more, rfl, rfl⟩ := prefix_of_creation quiet creation (events.symm.trans eq)
  obtain ⟨id, a, rfl, rfl⟩ := Following.of_creation?
    (follows e (List.mem_append_right _ List.mem_cons_self)) creation
  obtain ⟨info, address, inspected, given, chosen⟩ := addresses a rfl
  exact ⟨info, by simpa using inspected.extend [] more,
    createArgs_placed fits attached given chosen⟩

/-- The first address pool of a network counts, whatever its family. An inspection gives the subnet
and the gateway of that pool and the addresses that containers hold, and it fails when there is no
pool. Each container that is created for an identity node or a relay is placed in the network as it
was inspected in the same attempt before: at the least host that is neither the gateway nor held by
a container, which is an IPv4 address when the first pool is one of IPv4. -/
theorem first_pool_decides (s : Settings) :
    (∀ name σ info, (inspectNetwork name σ).1 = .ok info ↔ ∃ out pool more held,
      (run (networkArgs name) σ).1 = .ok out ∧ Describes out (pool :: more) held ∧
        NetworkInfo.ofPool? name held pool = some info) ∧
    (∀ name σ out held, (run (networkArgs name) σ).1 = .ok out → Describes out [] held →
      ∃ text, (inspectNetwork name σ).1 = .error (.runtime text)) ∧
    ∀ service r σ, service ≠ .connector → ∃ laid attempts, Attempted s service r σ laid attempts ∧
      ∀ events ∈ attempts, ∀ before e after args, events = before ++ e :: after →
        creation? e = some args → ∃ info, Inspected s σ.binary before info ∧
          PlacedIn info args := by
  refine ⟨fun name σ info => inspectNetwork_eq_ok, fun name σ out held answered described => ?_,
    fun service r σ attached => ?_⟩
  · rw [run_inspectNetwork, answered]
    exact described.read_nil
  · obtain ⟨laid, rounds, attempted, made⟩ := createRunner_attempted s service r σ
    refine ⟨laid, rounds.map Round.events, attempted, ?_⟩
    intro events mem before e after args eq creation
    obtain ⟨t, run, rfl⟩ := List.mem_map.mp mem
    obtain ⟨k, hk, rfl⟩ := List.getElem_of_mem run
    rcases made with rfl | ⟨o, g, σ₁, -, fits, binary, history⟩
    · exact absurd hk (Nat.not_lt_zero k)
    · obtain ⟨avoided, τ, τ', made, same, -⟩ := history.round k hk
      obtain ⟨info, inspected, placed⟩ := made.placed fits attached eq creation
      rw [same, binary] at inspected
      exact ⟨info, inspected, placed⟩

namespace Sample

/-- The addresses of the containers that are created in a session. -/
def placements (σ : Session) : List (Option Text) :=
  (σ.log.filterMap creation?).map fun args => optionValue? "--ip" (readOptions args)

/-- What docker tells of a network with a pool of IPv6 addresses and one of IPv4 addresses. -/
def dualDocument : String :=
  "[\x7b\"IPAM\":\x7b\"Config\":[\x7b\"Subnet\":\"fd00::/64\"\x7d," ++
    "\x7b\"Subnet\":\"10.0.0.0/29\",\"Gateway\":\"10.0.0.1\"\x7d]\x7d\x7d]"

/-- A session in which the network has both pools. -/
def dualSession : Session :=
  { session with answers := [("network", [⟨dualDocument.toUTF8, .empty, 0⟩])] }

/-- The subnets of the pools that a text describes a network by. -/
def subnets (out : Text) : List Text :=
  match Json.read out with
  | .ok (.arr (data :: _)) =>
    match data.at? ["IPAM", "Config"] with
    | some (.arr pools) => pools.filterMap fun pool => (pool.member? "Subnet").map Json.text
    | _ => []
  | _ => []

end Sample

/-- Both containers that are created in the sample session are placed at the first host of the
network, which has one pool. -/
theorem sample_nodes_placed :
    (∃ out pool more held info, (run (networkArgs "fleet") Sample.session).1 = .ok out ∧
      Describes out (pool :: more) held ∧
        NetworkInfo.ofPool? "fleet" held pool = some info ∧ info.subnet.text = "10.0.0.0/29") ∧
      Sample.placements (createRunner Sample.settings .identity Sample.template
        Sample.session).2 = [some ("10.0.0.1" : Text), some ("10.0.0.1" : Text)] ∧
      ∃ laid attempts, Attempted Sample.settings .identity Sample.template Sample.session laid
          attempts ∧
        ∀ events ∈ attempts, ∀ before e after args, events = before ++ e :: after →
          creation? e = some args → ∃ info,
            Inspected Sample.settings Sample.session.binary before info ∧ PlacedIn info args := by
  obtain ⟨inspection, -, placed⟩ := first_pool_decides Sample.settings
  have shown : (inspectNetwork "fleet" Sample.session).1.toOption.any
      (fun info => info.subnet.text == ("10.0.0.0/29" : Text)) = true := by decide +kernel
  obtain ⟨info, σ', inspected, subnet⟩ := exists_of_any shown
  obtain ⟨out, pool, more, held, answered, described, told⟩ :=
    (inspection "fleet" Sample.session info).mp (congrArg Prod.fst inspected)
  exact ⟨⟨out, pool, more, held, info, answered, described, told, beq_iff_eq.mp subnet⟩,
    by decide +kernel, placed .identity Sample.template Sample.session (by decide)⟩

/-- When the first pool is one of IPv6, its subnet is given and its first host is allocated,
although there is a pool of IPv4 addresses as well. -/
theorem ipv6_pool_first :
    Sample.subnets (.ofString Sample.dualDocument) = ["fd00::/64", "10.0.0.0/29"] ∧
      Network.read? "10.0.0.0/29" = some ⟨.v4 0x0a000000, 29⟩ ∧
      (inspectNetwork "fleet" Sample.dualSession).1.toOption.map (·.subnet.text) =
        some ("fd00::/64" : Text) ∧
      Sample.placements (createRunner Sample.settings .identity Sample.template
        Sample.dualSession).2 = [some ("fd00::1" : Text)] := by
  decide +kernel

end ProxyFleet.Creation
