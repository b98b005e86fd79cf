import ProxyFleet.Failure
import ProxyFleet.Text.Numeral

/-!
# Options

The options of containers. Each group can be read from environment variables; every variable is
optional.
-/

namespace ProxyFleet

/-- Environment variables and their values. -/
abbrev Environment := List (Text × Text)

namespace Environment

def get? (env : Environment) (name : Text) : Option Text := Keyed.get? name env

/-- The value of a variable, or what stands for a missing one. -/
def text (env : Environment) (name fallback : Text) : Text := (env.get? name).getD fallback

/-- The value of a variable that has to be a whole number; a blank one counts as missing. -/
def number (env : Environment) (name : Text) (fallback : Int) : Except Failure Int :=
  match env.get? name with
  | none => .ok fallback
  | some raw =>
    if (Text.strip raw).isEmpty then .ok fallback
    else
      match Text.readInt? raw with
      | some n => .ok n
      | none => .error (.value (name ++ " must be an integer, got " ++ Text.quoted raw))

end Environment

/-- Options of all containers: the prefix of label keys, the network that containers are attached
to, and the host directory that keystores are resolved against. -/
structure DockerOptions where
  keyPrefix : Text
  network : Text
  keystoreRoot : Option Text
  deriving DecidableEq, Repr

structure IdentityOptions where
  image : Text
  httpPort : Int
  keystorePath : Text
  namePrefix : Text
  volumePrefix : Text
  deriving DecidableEq, Repr

structure ConnectorOptions where
  image : Text
  namePrefix : Text
  apiBaseAddress : Text
  redisHost : Text
  redisPort : Int
  redisDb : Int
  deriving DecidableEq, Repr

structure RelayOptions where
  image : Text
  namePrefix : Text
  startPort : Int
  privatePort : Int
  targetPort : Int
  deriving DecidableEq, Repr

namespace DockerOptions

/-- The options with the points at the end of the key prefix taken off. -/
def of (keyPrefix network : Text) (keystoreRoot : Option Text) : DockerOptions :=
  ⟨Text.stripEnd '.' keyPrefix, network, keystoreRoot⟩

def default : DockerOptions := of "com.mysterium-proxy" "network-mysterium-proxy-main" none

def ofEnvironment (env : Environment) : DockerOptions :=
  of (env.text "DOCKER_LABEL_NAMESPACE" default.keyPrefix)
    (env.text "DOCKER_PROJECT_NETWORK_NAME" default.network)
    ((env.get? "DOCKER_HOST_KEYSTORE_PATH").filter fun path => !path.isEmpty)

end DockerOptions

namespace IdentityOptions

def default : IdentityOptions where
  image := "myst-service:v1.0"
  httpPort := 4449
  keystorePath := "/var/lib/mysterium-node/keystore/"
  namePrefix := "myst"
  volumePrefix := "myst-keystore"

def ofEnvironment (env : Environment) : Except Failure IdentityOptions := do
  let httpPort ← env.number "DOCKER_MYST_HTTP_PORT" default.httpPort
  return { default with
    image := env.text "DOCKER_MYST_IMAGE" default.image
    httpPort
    keystorePath := env.text "DOCKER_MYST_VOLUME_KEYSTORE_PATH" default.keystorePath }

end IdentityOptions

namespace ConnectorOptions

def default : ConnectorOptions where
  image := "myst-connect-service:v1.0"
  namePrefix := "myst-connect"
  apiBaseAddress := "http://127.0.0.1:4050"
  redisHost := "127.0.0.1"
  redisPort := 6379
  redisDb := 0

def ofEnvironment (env : Environment) : Except Failure ConnectorOptions := do
  let redisPort ← env.number "REDIS_PORT" default.redisPort
  let redisDb ← env.number "REDIS_DB" default.redisDb
  return { default with
    image := env.text "DOCKER_MYST_CONNECT_IMAGE" default.image
    apiBaseAddress := env.text "DOCKER_MYST_API_BASE_ADDRESS" default.apiBaseAddress
    redisHost := env.text "REDIS_HOST" default.redisHost
    redisPort
    redisDb }

end ConnectorOptions

namespace RelayOptions

def default : RelayOptions where
  image := "socat-service:v1.0"
  namePrefix := "socat"
  startPort := 3128
  privatePort := 1234
  targetPort := 10001

def ofEnvironment (env : Environment) : Except Failure RelayOptions := do
  let startPort ← env.number "DOCKER_SOCAT_START_PORT" default.startPort
  let targetPort ← env.number "DOCKER_SOCAT_TARGET_PORT" default.targetPort
  return { default with
    image := env.text "DOCKER_SOCAT_IMAGE" default.image
    startPort
    targetPort }

end RelayOptions

end ProxyFleet
