import ProxyFleet.Creation.Attempts
import ProxyFleet.Filter.Listing

/-!
# Runner discovery

Runners are stored nowhere: every read lists the containers of the fleet, inspects them and maps
them back to runners. Conditions on service, status, name and label become docker filters; the
others are evaluated on the runners.
-/

namespace ProxyFleet.Discovery

open Docker Creation

/-- The attributes that conditions are evaluated on in memory. -/
def memoryFields : List Text :=
  ["id", "serial", "name", "service", "status", "socket_type", "socket_port"]

/-- The project filter, narrowed to the service that the filter names. No container belongs to an
unknown service. -/
def projectFilter? (s : Settings) (f : Filter) : Option Text :=
  match f.condition? "service" with
  | none => some (s.key "project")
  | some c => (Service.ofJson? (c.operand.asJson)).map s.projectFilter

/-- The filters for the owners that the filter's label names. No container has labels that cannot
be written. -/
def ownerFilters? (s : Settings) (f : Filter) : Except Failure (Option (List Text)) :=
  match f.condition? "label" with
  | none => .ok (some [])
  | some c =>
    c.operand.asLabel.read.map fun models =>
      (Model.writeAll s.docker.keyPrefix secretFields models).toOption.map (·.map assignment)

/-- The states that the filter's status covers, none of them for an unknown status. -/
def stateFilter? (f : Filter) : Option (List Text) :=
  match f.condition? "status" with
  | none => some []
  | some c => (RunnerStatus.ofJson? (c.operand.asJson)).map RunnerStatus.dockerStates

/-- The containers to list for a filter, nothing when no container can satisfy it. -/
def queryOf? (s : Settings) (f : Filter) : Except Failure (Option Query) := do
  match projectFilter? s f with
  | none => return none
  | some project =>
    match ← ownerFilters? s f, stateFilter? f with
    | some owners, some status =>
      let name := (f.condition? "name").elim .null fun c => c.operand.asJson
      return some { labels := project :: owners, status, name }
    | _, _ => return none

/-- The identifier of the container whose network a network mode shares. -/
def sharedWith? (mode : Json) : Except Failure (Option Text) :=
  if mode.isBlank then .ok none
  else
    match mode with
    | .str s =>
      .ok do
        let rest ← Text.after? "container:" s
        let (id, tail) := Text.breakAt '\n' rest
        if !id.isEmpty && (tail.isEmpty || tail == "\n") then some id else none
    | _ => .error .wrongType

/-- The identifiers of the containers whose networks others share. -/
def dependencies : List Container → Except Failure (List Text)
  | [] => .ok []
  | c :: rest => do
    let id ← sharedWith? c.networkMode
    let ids ← dependencies rest
    return id.toList ++ ids

/-- The address of a container: that in the fleet's network, else that in its first one. -/
def addressOf (s : Settings) (c : Container) : Json :=
  let inFleet := (Keyed.get? s.docker.network c.networks).getD .null
  if inFleet.isBlank then (c.networks.head?.map Prod.snd).getD .null else inFleet

/-- The address behind every network mode that shares the network of a container. -/
def dependencyAddresses (s : Settings) (cs : List Container) : Run (List (Text × Json)) := do
  let ids ← dependencies cs
  if ids.isEmpty then return []
  let found ← inspect ids
  let addressed := found.filter fun c => !(addressOf s c).isBlank
  return Keyed.ofList (addressed.map fun c => ("container:" ++ c.id.text, addressOf s c))

/-- The published port of a relay, if its label is a row of digits. -/
def publishedPort (s : Settings) (labels : Json) : Except Failure (Option Int) := do
  let port ← labels.lookup s.portKey
  if port.isBlank then return none
  let text ← port.asText
  if text.all Text.isDigitLike then
    match Text.readInt? text with
    | some n => return some n
    | none => throw .badNumeral
  else return none

/-- How a runner of a service can be reached, and at which port. -/
def socketOf (s : Settings) (service : Service) (labels : Json) :
    Except Failure (SocketType × Option Int) :=
  match service with
  | .identity => .ok (.http, some s.identity.httpPort)
  | .relay => (publishedPort s labels).map fun port => (.tcp, port)
  | .connector => .ok (.unreachable, none)

/-- The address at which a container can be reached, null for none. -/
def socketUri (s : Settings) (addresses : List (Text × Json)) (c : Container) : Json :=
  let address :=
    match Keyed.get? s.docker.network c.networks with
    | some address => address
    | none =>
      let mode := match c.networkMode with
        | .str mode => mode
        | _ => ""
      (Keyed.get? mode addresses).getD .null
  if address.isBlank then .null else address

/-- The volume of a mount, marked as the keystore when it is mounted where keystores are. -/
def volumeOf (s : Settings) (mount : Json × Json) : Except Failure Volume := do
  let dest ← mount.2.asText
  let keystore := Text.stripEnd '/' dest == Text.stripEnd '/' s.identity.keystorePath
  return ⟨mount.1, some dest, keystore⟩

/-- The runner of a container, none when the container belongs to no known service. -/
def runnerOf? (s : Settings) (addresses : List (Text × Json)) (c : Container) :
    Except Failure (Option Runner) := do
  let project ← c.labels.lookup (s.key "project")
  match Service.ofJson? project with
  | none => return none
  | some service =>
    let (socketType, socketPort) ← socketOf s service c.labels
    let volumes ← c.mounts.mapM (volumeOf s)
    let labels ← c.labels.members
    return some
      { service
        id := (Keyed.get? (s.key "id") labels).getD .null
        serial := c.id
        name := some c.name
        socketType
        socketUri := socketUri s addresses c
        socketPort
        volumes
        status := .ofDockerState c.status
        label := .ofFlat s.docker.keyPrefix labels
        insertDate := c.created }

def readRunners (s : Settings) (addresses : List (Text × Json)) :
    List Container → Except Failure (List Runner)
  | [] => .ok []
  | c :: rest => do
    let r ← runnerOf? s addresses c
    let rs ← readRunners s addresses rest
    return r.toList ++ rs

/-- The runners of the containers of a query. -/
def runners (s : Settings) (q : Query) : Run (List Runner) := do
  let containers ← list q
  let addresses ← dependencyAddresses s containers
  readRunners s addresses containers

def getAll (s : Settings) (f : Filter) : Run (Listing Runner) := do
  match ← queryOf? s f with
  | none => return .empty
  | some q =>
    let rs ← wrapFailure (← attempt (runners s q))
    Listing.ofFilter Runner.attr (some memoryFields) f rs

def getById (s : Settings) (id : Text) : Run (Option Runner) := do
  let q : Query := { labels := [s.key "id" ++ "=" ++ id] }
  let rs ← wrapFailure (← attempt (runners s q))
  return rs.head?

end ProxyFleet.Discovery
