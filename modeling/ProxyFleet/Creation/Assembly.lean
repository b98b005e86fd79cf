import ProxyFleet.Creation.Allocation
import ProxyFleet.Creation.Groundwork

/-!
# Assembly

The specification of a container from the order, the groundwork and the allocation, and the runner
that results when the container has been started.
-/

namespace ProxyFleet.Creation

open Docker

/-- Gives a container the clock of its host. -/
def localtimeBind : Text := "/etc/localtime:/etc/localtime:ro"

/-- Keeps the logs of a container small. -/
def logLimits : List (Text × Text) := [("max-file", "2"), ("max-size", "1g")]

def identitySpec (s : Settings) (o : Order) (volume id : Text) (a : Allocation) : Spec where
  image := s.identity.image
  name := a.name
  command :=
    ["--auto-reconnect", "--log-level", "fatal", "service", "--agreed-terms-and-conditions"]
  labels := s.containerLabels .identity o id
  env :=
    [("MYST_IDENTITY", o.identity.text "identity"),
     ("MYST_IDENTITY_PASS", o.identity.text "passphrase")]
  network := some s.docker.network
  address := a.address
  binds := [localtimeBind, volume ++ ":" ++ s.identity.keystorePath]
  capabilities := ["NET_ADMIN"]
  devices := ["/dev/net/tun"]

/-- A field of the provider that an order names. -/
def Order.providerText (o : Order) (name : Text) : Text :=
  o.provider.elim "" fun m => m.text name

def connectorSpec (s : Settings) (o : Order) (node : Json) (id : Text) (a : Allocation) :
    Spec where
  image := s.connector.image
  name := a.name
  labels := s.containerLabels .connector o id
  env :=
    [("MYST_API_BASE_ADDRESS", Text.stripEnd '/' s.connector.apiBaseAddress),
     ("MYST_IDENTITY", o.identity.text "identity"),
     ("PROVIDER_IDENTITY", o.providerText "provider_identity"),
     ("API_PROVIDER_ID", o.providerText "id"),
     ("REDIS_HOST", s.connector.redisHost),
     ("REDIS_PORT", Text.numeral s.connector.redisPort),
     ("REDIS_DB", Text.numeral s.connector.redisDb)]
  network := some ("container:" ++ node.text)
  binds := [localtimeBind]
  logOptions := logLimits

def relaySpec (s : Settings) (o : Order) (target : Json) (id : Text) (a : Allocation) : Spec :=
  let port := a.port.getD 0
  { image := s.relay.image
    name := a.name
    command :=
      ["TCP-LISTEN:" ++ Text.numeral s.relay.privatePort ++ ",fork",
       "TCP:" ++ target.text ++ ":" ++ Text.numeral s.relay.targetPort]
    labels := Keyed.put s.portKey (Text.numeral port) (s.containerLabels .relay o id)
    network := some s.docker.network
    address := a.address
    binds := [localtimeBind]
    ports := [(port, s.relay.privatePort)]
    logOptions := logLimits }

def specOf (s : Settings) (o : Order) (g : Groundwork) (id : Text) (a : Allocation) : Spec :=
  match g with
  | .keystore volume => identitySpec s o volume id a
  | .node node => connectorSpec s o node id a
  | .address target => relaySpec s o target id a

/-- The volumes of an identity node: the keystore is found at its place inside the container. -/
def placedVolumes (s : Settings) (r : Runner) : List Volume :=
  r.volumes.map fun v => if v.keystore then { v with dest := some s.identity.keystorePath } else v

/-- The runner whose container has been started. -/
def runnerOf (s : Settings) (service : Service) (o : Order) (id container : Text)
    (a : Allocation) : Runner :=
  let r : Runner :=
    { Runner.template service o.template.label with
      id := .str id
      serial := .str container
      name := some a.name
      status := .running
      insertDate := some s.now }
  match service with
  | .identity =>
    { r with
      socketType := .http
      socketUri := a.address.elim .null .str
      socketPort := some s.identity.httpPort
      volumes := placedVolumes s o.template }
  | .connector => r
  | .relay =>
    { r with
      socketType := .tcp
      socketUri := a.address.elim .null .str
      socketPort := a.port }

end ProxyFleet.Creation
