import ProxyFleet.Proofs.Docker.Document
import ProxyFleet.Proofs.Docker.FreeAddress

/-!
# Address pools of a docker network

A network is described by a list of address pools and by what its containers hold. Its subnet and
its gateway are those of the first pool, whatever the families of this one and of the others;
without any pool the description cannot be read.
-/

namespace ProxyFleet.Docker

variable {name out address : Text} {j data container : Json} {held : List Text} {info : NetworkInfo}
  {containers : List (Text × Json)}

/-! ## Addresses that containers hold -/

/-- Whether what is told about a container is an object, with a text or nothing as its IPv4
address. -/
def Attached (container : Json) : Prop :=
  (∃ ms, container = .obj ms) ∧
    ∀ address, container.member? "IPv4Address" = some address →
      address.isBlank ∨ ∃ t, address = .str t

/-- The IPv4 address of a container without its prefix length, if it is listed with one. -/
def heldAddress? (container : Json) : Option Text :=
  match container.member? "IPv4Address" with
  | some (.str t) => if t.isEmpty then none else some ((Text.split '/' t).headD "")
  | _ => none

/-- An attached container adds its address, if it has one, to those of the others. -/
lemma readAddresses_attached {k : Text} (h : Attached container) :
    NetworkInfo.readAddresses ((k, container) :: containers) =
      (NetworkInfo.readAddresses containers).map ((heldAddress? container).toList ++ ·) := by
  obtain ⟨⟨ms, rfl⟩, shaped⟩ := h
  have none : NetworkInfo.readAddresses containers =
      (NetworkInfo.readAddresses containers).map (([] : List Text) ++ ·) := by
    cases NetworkInfo.readAddresses containers <;> rfl
  have looked : (Json.obj ms).lookup "IPv4Address" =
      .ok (((Json.obj ms).member? "IPv4Address").getD .null) := rfl
  rw [NetworkInfo.readAddresses, looked, ok_bind, heldAddress?]
  rcases found : (Json.obj ms).member? "IPv4Address" with _ | address
  · exact none
  by_cases blank : address.isBlank = true
  · rw [Option.getD_some, if_pos blank]
    cases address with
    | str t =>
      have empty : t.isEmpty = true := blank
      dsimp only
      rw [if_pos empty]
      exact none
    | _ => exact none
  · obtain ⟨t, rfl⟩ := (shaped address found).resolve_left blank
    have given : ¬ t.isEmpty = true := blank
    dsimp only
    rw [Option.getD_some, if_neg blank, if_neg given]
    rfl

/-- A container is attached if the addresses of a list that starts with it can be read. -/
lemma attached_of_read {k : Text}
    (h : NetworkInfo.readAddresses ((k, container) :: containers) = .ok held) :
    Attached container := by
  obtain ⟨address, looked, h⟩ := bind_eq_ok.mp h
  obtain ⟨object, eq⟩ := Json.lookup_eq_ok.mp looked
  refine ⟨object, fun address' found => ?_⟩
  rw [found] at eq
  cases eq
  dsimp only [Option.getD_some] at h
  split at h
  · exact .inl ‹_›
  · obtain ⟨t, text, -⟩ := bind_eq_ok.mp h
    exact .inr ⟨t, Json.asText_eq_ok.mp text⟩

/-- Addresses can be read where every container is attached, and are those of the containers that
have one. -/
lemma readAddresses_eq_ok : NetworkInfo.readAddresses containers = .ok held ↔
    (∀ m ∈ containers, Attached m.2) ∧ held = containers.filterMap fun m => heldAddress? m.2 := by
  induction containers generalizing held with
  | nil => simp [NetworkInfo.readAddresses, eq_comm]
  | cons m rest ih =>
    obtain ⟨k, container⟩ := m
    have step : ((k, container) :: rest).filterMap (fun m => heldAddress? m.2) =
        (heldAddress? container).toList ++ rest.filterMap fun m => heldAddress? m.2 := by
      rw [List.filterMap_cons]
      cases heldAddress? container <;> rfl
    constructor
    · intro h
      have attached := attached_of_read h
      rw [readAddresses_attached attached] at h
      obtain ⟨others, read, rfl⟩ := map_eq_ok.mp h
      obtain ⟨all, rfl⟩ := ih.mp read
      exact ⟨List.forall_mem_cons.mpr ⟨attached, all⟩, step.symm⟩
    · rintro ⟨all, rfl⟩
      obtain ⟨attached, all⟩ := List.forall_mem_cons.mp all
      rw [readAddresses_attached attached, ih.mpr ⟨all, rfl⟩, step]
      rfl

/-! ## What a description tells -/

/-- Whether a text describes a network by a list of address pools, and by containers that hold
addresses. -/
inductive Describes (out : Text) : List Json → List Text → Prop where
  | mk {data others pools containers} : Json.read out = .ok (.arr (data :: others)) →
    data.at? ["IPAM", "Config"] = some (.arr pools) →
    ((data.member? "Containers").getD .null).orEmpty = .obj containers →
    (∀ m ∈ containers, Attached m.2) →
    Describes out pools (containers.filterMap fun m => heldAddress? m.2)

/-- A network as it is told by one pool. -/
def NetworkInfo.ofPool? (name : Text) (held : List Text) (pool : Json) : Option NetworkInfo :=
  (pool.member? "Subnet").map fun subnet =>
    ⟨name, subnet, (pool.member? "Gateway").getD .null, held⟩

/-- A document is read where its text is JSON. -/
lemma readDocument_eq_ok : readDocument out = .ok j ↔ Json.read out = .ok j := by
  unfold readDocument
  split <;> rename_i read <;> simp [read]

/-- An explained outcome comes to the same results. -/
lemma explained_eq_ok {α : Type} {what : Text} {x : Except Failure α} {a : α} :
    explained what x = .ok a ↔ x = .ok a := by
  cases x with
  | ok b => exact Iff.rfl
  | error e => exact ⟨nofun, nofun⟩

/-- A path is followed member by member. -/
lemma at?_eq_some {path : List Text} {key : Text} {v : Json} :
    j.at? (key :: path) = some v ↔ ∃ inner, j.member? key = some inner ∧ inner.at? path = some v :=
  Option.bind_eq_some_iff

/-- What remains of a description when its pools and its containers have been found. -/
lemma Describes.read {pools : List Json} (h : Describes out pools held) :
    NetworkInfo.read name out = explained ("Failed to parse network info for " ++ Text.quoted name)
      (do
        let pool ← (Json.arr pools).first
        let subnet ← pool.require "Subnet"
        let gateway ← pool.lookup "Gateway"
        return ⟨name, subnet, gateway, held⟩) := by
  cases h with
  | @mk data others pools containers document configured members attached =>
    obtain ⟨ipam, managed, below⟩ := at?_eq_some.mp configured
    obtain ⟨config, found, same⟩ := at?_eq_some.mp below
    cases same
    obtain ⟨ms, rfl⟩ := Json.exists_obj managed
    have looked : (Json.obj ms).lookup "Containers" =
        .ok (((Json.obj ms).member? "Containers").getD .null) := rfl
    have first : (Json.arr (.obj ms :: others)).first = .ok (.obj ms) := rfl
    simp only [NetworkInfo.read, NetworkInfo.ofJson, readDocument_eq_ok.mpr document, first, looked,
      Json.require_eq_ok.mpr managed, Json.require_eq_ok.mpr found, members,
      Json.members_eq_ok.mpr rfl, readAddresses_eq_ok.mpr ⟨attached, rfl⟩, ok_bind]

/-- A description without pools cannot be read. -/
lemma Describes.read_nil (h : Describes out [] held) :
    ∃ text, NetworkInfo.read name out = .error (.runtime text) :=
  ⟨_, h.read⟩

/-- A description is read exactly when it has a pool with a subnet, and the first pool counts. -/
lemma NetworkInfo.read_eq_ok : NetworkInfo.read name out = .ok info ↔
    ∃ pool more held, Describes out (pool :: more) held ∧ ofPool? name held pool = some info := by
  constructor
  · intro h
    obtain ⟨j, document, h⟩ := bind_eq_ok.mp (explained_eq_ok.mp h)
    obtain ⟨data, first, h⟩ := bind_eq_ok.mp h
    obtain ⟨ipam, managed, h⟩ := bind_eq_ok.mp h
    obtain ⟨config, configured, h⟩ := bind_eq_ok.mp h
    obtain ⟨pool, head, h⟩ := bind_eq_ok.mp h
    obtain ⟨members, looked, h⟩ := bind_eq_ok.mp h
    obtain ⟨subnet, given, h⟩ := bind_eq_ok.mp h
    obtain ⟨gateway, asked, h⟩ := bind_eq_ok.mp h
    obtain ⟨containers, listed, h⟩ := bind_eq_ok.mp h
    obtain ⟨held, addresses, h⟩ := bind_eq_ok.mp h
    cases h
    have managed := Json.require_eq_ok.mp managed
    have given := Json.require_eq_ok.mp given
    obtain ⟨ms, rfl⟩ := Json.exists_obj managed
    obtain ⟨ps, rfl⟩ := Json.exists_obj given
    obtain ⟨others, rfl⟩ := Json.first_eq_obj.mp first
    obtain ⟨more, rfl⟩ := Json.first_eq_obj.mp head
    obtain ⟨attached, rfl⟩ := readAddresses_eq_ok.mp addresses
    obtain ⟨-, rfl⟩ := Json.lookup_eq_ok.mp looked
    obtain ⟨-, rfl⟩ := Json.lookup_eq_ok.mp asked
    refine ⟨_, more, _, .mk (readDocument_eq_ok.mp document) ?_ (Json.members_eq_ok.mp listed)
      attached, by rw [ofPool?, given]; rfl⟩
    exact at?_eq_some.mpr
      ⟨ipam, managed, at?_eq_some.mpr ⟨_, Json.require_eq_ok.mp configured, rfl⟩⟩
  · rintro ⟨pool, more, held, described, eq⟩
    obtain ⟨subnet, given, rfl⟩ := Option.map_eq_some_iff.mp eq
    obtain ⟨ms, rfl⟩ := Json.exists_obj given
    rw [described.read, explained_eq_ok]
    exact bind_eq_ok.mpr ⟨_, rfl, bind_eq_ok.mpr ⟨_, Json.require_eq_ok.mpr given, rfl⟩⟩

/-! ## Addresses that are given out -/

section
variable {network : Network} {base a : Address} {gateway : Json} {taken : List Address}

/-- When the reserved addresses can be listed, the gateway and those of the containers can be
read. -/
lemma readable_of_reserved {addresses : List Json}
    (h : reserved base gateway addresses = .ok taken) :
    (gateway.isBlank = false → ∃ g, readAddress gateway = .ok g) ∧
      ∀ j ∈ addresses, ∃ a, readAddress j = .ok a := by
  unfold reserved at h
  split at h
  · rename_i blank
    obtain ⟨_, -, h⟩ := bind_eq_ok.mp h
    obtain ⟨holders, others, -⟩ := bind_eq_ok.mp h
    exact ⟨fun given => absurd (given.symm.trans blank) nofun, forall_of_mapM others⟩
  · obtain ⟨g, read, h⟩ := bind_eq_ok.mp h
    obtain ⟨_, -, h⟩ := bind_eq_ok.mp h
    obtain ⟨holders, others, -⟩ := bind_eq_ok.mp h
    exact ⟨fun _ => ⟨g, read⟩, forall_of_mapM others⟩

/-- An address that a network gives out is the least of its free hosts. -/
lemma NetworkInfo.free_of_freeAddress (h : info.freeAddress = .ok address) :
    ∃ network, readNetwork info.subnet = .ok network ∧
      ((∀ v zone, network.base ≠ .v6 v (some zone)) → ∃ a, address = a.text ∧
        readAddress (.str address) = .ok a ∧ info.Free network a ∧
        ∀ b, info.Free network b → a.value ≤ b.value) := by
  obtain ⟨network, subnet, h⟩ := bind_eq_ok.mp h
  obtain ⟨taken, reserves, h⟩ := bind_eq_ok.mp h
  refine ⟨network, subnet, fun unscoped => ?_⟩
  obtain ⟨gateway, held⟩ := readable_of_reserved reserves
  obtain ⟨taken', reserves', mem⟩ := exists_reserved network.base gateway (by simpa using held)
  cases reserves.symm.trans reserves'
  have whole := Network.whole_of_ofJson? (readNetwork_eq_ok.mp subnet) unscoped
  split at h
  · rename_i a found
    cases h
    exact ⟨a, rfl, free_of_freeHost? whole (fun _ => free_iff mem) found⟩
  · cases h

end

end ProxyFleet.Docker
