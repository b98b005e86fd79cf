import ProxyFleet.Filter.Basic
import ProxyFleet.Text.Lower

/-!
# Runners

A runner is a managed container that implements one service unit: an identity node, a connector
that shares its network, or a relay in front of it.
-/

namespace ProxyFleet

/-- The kind of service unit that a runner implements. -/
inductive Service where
  | identity
  | connector
  | relay
  deriving DecidableEq, Repr

namespace Service

def all : List Service := [identity, connector, relay]

def name : Service → Text
  | identity => "identity"
  | connector => "connector"
  | relay => "relay"

def ofJson? : Json → Option Service
  | .str s => all.find? fun service => service.name == s
  | _ => none

end Service

/-- How a runner can be reached. -/
inductive SocketType where
  | http
  | tcp
  | unreachable
  deriving DecidableEq, Repr

def SocketType.name : SocketType → Text
  | http => "http"
  | tcp => "tcp"
  | unreachable => "none"

/-- The condition that a runner is in. -/
inductive RunnerStatus where
  | creating
  | running
  | restarting
  | stopped
  | error
  deriving DecidableEq, Repr

namespace RunnerStatus

def all : List RunnerStatus := [creating, running, restarting, stopped, error]

def name : RunnerStatus → Text
  | creating => "creating"
  | running => "running"
  | restarting => "restarting"
  | stopped => "stopped"
  | error => "error"

def ofJson? : Json → Option RunnerStatus
  | .str s => all.find? fun status => status.name == s
  | _ => none

/-- The states of containers that a condition covers. -/
def dockerStates : RunnerStatus → List Text
  | creating => ["created"]
  | running => ["running"]
  | restarting => ["restarting"]
  | stopped => ["exited", "paused"]
  | error => ["dead", "removing"]

/-- The condition of a container in the given state, whatever its case; unknown states are
errors. -/
def ofDockerState (state : Text) : RunnerStatus :=
  (all.find? fun status => status.dockerStates.contains (Text.lower state)).getD error

end RunnerStatus

/-- A directory of the host that a runner sees, its keystore if it is marked so. -/
structure Volume where
  source : Json
  dest : Option Text
  keystore : Bool

/-- A managed container. -/
structure Runner where
  service : Service
  id : Json
  serial : Json
  name : Option Text
  socketType : SocketType
  socketUri : Json
  socketPort : Option Int
  volumes : List Volume
  status : RunnerStatus
  label : Label
  insertDate : Option Moment

def Value.ofText? (s : Option Text) : Value := s.elim null str

def Value.ofMoment? (m : Option Moment) : Value := m.elim null moment

def Volume.toValue (v : Volume) : Value :=
  .record "volume"
    [("source", .ofJson v.source), ("dest", .ofText? v.dest),
     ("name", if v.keystore then .str "keystore" else .null)]

namespace Runner

/-- A runner that is still to be created. -/
def template (service : Service) (label : Label) : Runner where
  service
  id := .null
  serial := .null
  name := none
  socketType := .unreachable
  socketUri := .null
  socketPort := none
  volumes := []
  status := .creating
  label
  insertDate := none

/-- The first volume that is marked as the keystore. -/
def keystore? (r : Runner) : Option Volume := r.volumes.find? (·.keystore)

def fields (r : Runner) : List (Text × Value) :=
  [("service", .str r.service.name),
   ("id", .ofJson r.id),
   ("serial", .ofJson r.serial),
   ("name", .ofText? r.name),
   ("exec", .str "docker"),
   ("socket_type", .str r.socketType.name),
   ("socket_uri", .ofJson r.socketUri),
   ("socket_port", r.socketPort.elim .null .int),
   ("volumes", .list (r.volumes.map Volume.toValue)),
   ("status", .str r.status.name),
   ("label", r.label.toValue),
   ("insert_date", .ofMoment? r.insertDate)]

/-- The operations of a runner: asking for one of its volumes. -/
def operations : List (Text × Value) := [("get_volume", .operation)]

def attr (r : Runner) (field : Text) : Value :=
  (Keyed.get? field (r.fields ++ operations)).getD .null

def toValue (r : Runner) : Value := .record "runner" r.fields

end Runner

end ProxyFleet
