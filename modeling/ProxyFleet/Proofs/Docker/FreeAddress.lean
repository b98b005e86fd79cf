import ProxyFleet.Docker.NetworkInfo
import ProxyFleet.Proofs.Address.Network

/-!
# Free addresses of a docker network

A new container gets the least host of its network that is neither the network address nor the
gateway nor held by a container. The text that it is given is read as that address.
-/

namespace ProxyFleet.Docker

variable {info : NetworkInfo} {network : Network} {a : Address} {taken : List Address}

/-- Whether an address is a host of a docker network that is not reserved. -/
structure NetworkInfo.Free (info : NetworkInfo) (network : Network) (a : Address) : Prop where
  host : network.IsHost a
  notNetwork : a ≠ network.base
  notGateway : info.gateway.isBlank = false → readAddress info.gateway ≠ .ok a
  notHeld : ∀ t ∈ info.addresses, readAddress (.str t) ≠ .ok a

/-- An address is read where it has the form of one. -/
lemma readAddress_eq_ok {j : Json} : readAddress j = .ok a ↔ Address.ofJson? j = some a := by
  unfold readAddress
  split
  · rename_i read
    rw [read, Except.ok.injEq, Option.some.injEq]
  · rename_i read
    rw [read]
    exact ⟨nofun, nofun⟩

/-- A network is read where it has the form of one. -/
lemma readNetwork_eq_ok {j : Json} :
    readNetwork j = .ok network ↔ Network.ofJson? j = some network := by
  unfold readNetwork
  split
  · rename_i read
    rw [read, Except.ok.injEq, Option.some.injEq]
  · rename_i read
    rw [read]
    exact ⟨nofun, nofun⟩

/-- The text of an address is read back as the address. -/
lemma readAddress_text (plain : a.Plain) : readAddress (.str a.text) = .ok a :=
  readAddress_eq_ok.mpr (Address.read?_text plain)

/-- What is reserved is the network address, the gateway and what containers hold. -/
lemma exists_reserved (base : Address)
    (gateway : info.gateway.isBlank = false → ∃ g, readAddress info.gateway = .ok g)
    (held : ∀ t ∈ info.addresses, ∃ h, readAddress (.str t) = .ok h) :
    ∃ taken, reserved base info.gateway (info.addresses.map .str) = .ok taken ∧
      ∀ a, a ∈ taken ↔ a = base ∨
        (info.gateway.isBlank = false ∧ readAddress info.gateway = .ok a) ∨
        ∃ t ∈ info.addresses, readAddress (.str t) = .ok a := by
  have held : ∀ j ∈ info.addresses.map Json.str, ∃ h, readAddress j = .ok h := by simpa using held
  obtain ⟨holders, read, mem⟩ := exists_mapM held
  have mem : ∀ a, a ∈ holders ↔ ∃ t ∈ info.addresses, readAddress (.str t) = .ok a := by
    simpa using mem
  unfold reserved
  cases blank : info.gateway.isBlank with
  | true => exact ⟨base :: holders, by simp [read], fun a => by simp [mem]⟩
  | false =>
    obtain ⟨g, gateway⟩ := gateway blank
    exact ⟨base :: g :: holders, by simp [read, gateway], fun a => by
      simp [mem, gateway, eq_comm]⟩

namespace NetworkInfo

/-- The addresses that are not free are the reserved ones and those that are no hosts. -/
lemma free_iff (mem : ∀ a, a ∈ taken ↔ a = network.base ∨
      (info.gateway.isBlank = false ∧ readAddress info.gateway = .ok a) ∨
      ∃ t ∈ info.addresses, readAddress (.str t) = .ok a) :
    info.Free network a ↔ network.IsHost a ∧ a ∉ taken := by
  rw [mem, not_or, not_or]
  constructor
  · intro free
    refine ⟨free.host, free.notNetwork, fun h => free.notGateway h.1 h.2, ?_⟩
    rintro ⟨t, held, same⟩
    exact free.notHeld t held same
  · rintro ⟨host, other, notGateway, notHeld⟩
    exact ⟨host, other, fun given same => notGateway ⟨given, same⟩,
      fun t held same => notHeld ⟨t, held, same⟩⟩

/-- The host that is chosen is the least of the free ones, and its text is read as that address. -/
lemma free_of_freeHost? (whole : network.Whole)
    (free : ∀ a, info.Free network a ↔ network.IsHost a ∧ a ∉ taken)
    (chosen : network.freeHost? taken = some a) :
    readAddress (.str a.text) = .ok a ∧ info.Free network a ∧
      ∀ b, info.Free network b → a.value ≤ b.value := by
  obtain ⟨host, untaken, least⟩ := Network.freeHost?_eq_some whole chosen
  refine ⟨readAddress_text (host.plain whole), (free a).mpr ⟨host, untaken⟩, fun b other => ?_⟩
  obtain ⟨host', untaken'⟩ := (free b).mp other
  exact least b host' untaken'

end NetworkInfo

/-- The address that a docker network gives out is its least free host, and its text is read as that
address. There is none exactly when no host is free. -/
theorem free_address_least (subnet : readNetwork info.subnet = .ok network)
    (unscoped : ∀ v zone, network.base ≠ .v6 v (some zone))
    (gateway : info.gateway.isBlank = false → ∃ g, readAddress info.gateway = .ok g)
    (held : ∀ t ∈ info.addresses, ∃ h, readAddress (.str t) = .ok h) :
    (info.freeAddress = .error (.addressesExhausted info.name) ↔ ∀ a, ¬ info.Free network a) ∧
      ((∃ a, info.Free network a) → ∃ a, info.freeAddress = .ok a.text ∧
        readAddress (.str a.text) = .ok a ∧ info.Free network a ∧
        ∀ b, info.Free network b → a.value ≤ b.value) := by
  obtain ⟨taken, reserves, mem⟩ := exists_reserved network.base gateway held
  have whole := Network.whole_of_ofJson? (readNetwork_eq_ok.mp subnet) unscoped
  have free : ∀ a, info.Free network a ↔ network.IsHost a ∧ a ∉ taken :=
    fun _ => NetworkInfo.free_iff mem
  have chosen : info.freeAddress = (network.freeHost? taken).elim
      (.error (.addressesExhausted info.name)) fun a => .ok a.text := by
    unfold NetworkInfo.freeAddress chooseAddress
    rw [subnet, ok_bind, reserves, ok_bind]
    cases network.freeHost? taken <;> rfl
  rcases found : network.freeHost? taken with _ | a <;> rw [found] at chosen
  case none =>
    have exhausted : ∀ a, ¬ info.Free network a := by
      intro a free'
      obtain ⟨host, untaken⟩ := (free a).mp free'
      exact untaken ((Network.freeHost?_eq_none whole).mp found a host)
    exact ⟨iff_of_true chosen exhausted, fun some => absurd some (not_exists.mpr exhausted)⟩
  case some =>
    obtain ⟨read, free', least⟩ := NetworkInfo.free_of_freeHost? whole free found
    refine ⟨iff_of_false (fun failed => ?_) fun none => none a free',
      fun _ => ⟨a, chosen, read, free', least⟩⟩
    cases chosen.symm.trans failed

namespace Sample

/-- A network of six hosts, written with host bits. Its gateway and a container hold the first two
of them, another container an address of some other network. -/
def sixHosts : NetworkInfo where
  name := "fleet"
  subnet := .str "10.0.0.13/29"
  gateway := .str "10.0.0.9"
  addresses := ["10.0.0.10", "192.168.0.1"]

end Sample

/-- That network gives out the third of its hosts, and no other free one has a lesser number. -/
theorem third_host_free : Sample.sixHosts.freeAddress = .ok "10.0.0.11" ∧
    ∀ b, Sample.sixHosts.Free ⟨.v4 0x0a000008, 29⟩ b → 0x0a00000b ≤ b.value := by
  have subnet : readNetwork Sample.sixHosts.subnet = .ok ⟨.v4 0x0a000008, 29⟩ :=
    readNetwork_eq_ok.mpr (by decide +kernel)
  have given : Sample.sixHosts.freeAddress.toOption = some "10.0.0.11" := by decide +kernel
  obtain ⟨exhausted, least⟩ := free_address_least subnet nofun (fun _ => ⟨_, rfl⟩) (by
    rintro t (_ | ⟨_, _ | ⟨_, ⟨⟩⟩⟩) <;> exact ⟨_, rfl⟩)
  have free : ∃ a, Sample.sixHosts.Free ⟨.v4 0x0a000008, 29⟩ a := by
    by_contra none
    rw [exhausted.mpr (not_exists.mp none)] at given
    cases given
  obtain ⟨a, chosen, read, -, lowest⟩ := least free
  rw [chosen] at given
  have text : a.text = "10.0.0.11" := Option.some.inj given
  have number : readAddress (.str "10.0.0.11") = .ok (.v4 0x0a00000b) :=
    readAddress_eq_ok.mpr (by decide +kernel)
  rw [text] at chosen read
  cases number.symm.trans read
  exact ⟨chosen, lowest⟩

end ProxyFleet.Docker
