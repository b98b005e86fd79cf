import ProxyFleet.Creation.Settings

/-!
# Groundwork

What is done once before the attempts: an identity node needs its keystore volume, a connector and
a relay need a running identity node.
-/

namespace ProxyFleet.Creation

open Docker

/-- What the attempts build on. -/
inductive Groundwork where
  /-- An identity node will use this volume. -/
  | keystore (volume : Text)
  /-- A connector will share the network of this container. -/
  | node (id : Json)
  /-- A relay will forward to this address. -/
  | address (address : Json)

/-- The running identity node of an order. -/
def findNode (s : Settings) (o : Order) : Run Container := do
  let labels ← Model.writeOf s.docker.keyPrefix ("identity" :: secretFields) o.models .identity
  let containers ← list
    { labels := s.projectFilter .identity :: labels.map assignment
      status := ["running"]
      stopped := false }
  match containers with
  | node :: _ => return node
  | [] => throw (.notRunning (some Service.identity.name))

/-- Makes sure that the keystore volume exists. -/
def layKeystore (s : Settings) (o : Order) : Run Groundwork := do
  let volume := s.keystoreVolume o
  if ← volumeExists volume then return .keystore volume
  let source := (o.template.keystore?.map (·.source)).getD .null
  let device ← s.hostPath source
  let labels ← Model.writeOf (s.key "volume") secretFields o.models .identity
  createVolume volume [("type", "none"), ("o", "bind"), ("device", device)]
    (Keyed.ofList ((s.key "create-by", "api") :: labels))
  return .keystore volume

/-- The address of the identity node in the fleet's network. -/
def findAddress (s : Settings) (o : Order) : Run Groundwork := do
  let node ← findNode s o
  match Keyed.get? s.docker.network node.networks with
  | some address =>
    if address.isBlank then throw (.notRunning (some Service.identity.name))
    else return .address address
  | none => throw (.notRunning (some Service.identity.name))

def layGroundwork (s : Settings) (service : Service) (o : Order) : Run Groundwork :=
  match service with
  | .identity => layKeystore s o
  | .connector => do return .node (← findNode s o).id
  | .relay => findAddress s o

end ProxyFleet.Creation
