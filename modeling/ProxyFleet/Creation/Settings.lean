import ProxyFleet.Creation.Order
import ProxyFleet.Docker.Command
import ProxyFleet.Options

/-!
# Settings of creators

The options of all kinds of runners, how often a creation is tried, where the process runs, and the
time that new runners are dated with; the labels that creators write and look for.
-/

namespace ProxyFleet.Creation

/-- What creators go by. -/
structure Settings where
  docker : DockerOptions
  identity : IdentityOptions
  connector : ConnectorOptions
  relay : RelayOptions
  maxAttempts : Int
  workingDirectory : Text
  now : Moment

/-- Fields that are never written into labels. -/
def secretFields : List Text := ["passphrase"]

namespace Settings

/-- A key of the fleet's own labels. -/
def key (s : Settings) (name : Text) : Text := s.docker.keyPrefix ++ "." ++ name

/-- The label filter for containers of one kind. -/
def projectFilter (s : Settings) (service : Service) : Text :=
  s.key "project" ++ "=" ++ service.name

/-- The key of the label that holds the published port of a relay. -/
def portKey (s : Settings) : Text := s.key "publish-port"

/-- The labels that name the owners of a runner, secrets left out. An attempt has written them
before it makes a container. -/
def ownerLabels (s : Settings) (o : Order) : List (Text × Text) :=
  Model.flatAll s.docker.keyPrefix secretFields o.models

def containerLabels (s : Settings) (service : Service) (o : Order) (id : Text) :
    List (Text × Text) :=
  let own := [(s.key "id", id), (s.key "project", service.name), (s.key "create-by", "api")]
  Keyed.put "autoheal" "true" (Keyed.ofList (own ++ s.ownerLabels o))

def namePrefix (s : Settings) : Service → Text
  | .identity => s.identity.namePrefix
  | .connector => s.connector.namePrefix
  | .relay => s.relay.namePrefix

/-- The directory of the host that a keystore source stands for: below the working directory it is
resolved against the keystore root, if there is one. -/
def hostPath (s : Settings) (source : Json) : Except Failure Text :=
  match s.docker.keystoreRoot.filter fun root => !root.isEmpty with
  | none =>
    match source.text? with
    | some path => .ok path
    | none => .error .badNumeral
  | some root => do
    let path ← source.asText
    match Text.after? s.workingDirectory path with
    | some rest => return Text.stripEnd '/' root ++ rest
    | none => return path

/-- The volume that holds the keystore of an identity. -/
def keystoreVolume (s : Settings) (o : Order) : Text :=
  s.identity.volumePrefix ++ "-" ++ o.identity.text "identity"

end Settings

end ProxyFleet.Creation
