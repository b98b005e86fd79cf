import ProxyFleet.Docker.Document
import ProxyFleet.Docker.Timestamp
import ProxyFleet.Json.Reader
import ProxyFleet.Text.Lower

/-!
# Containers

What docker tells about a container. Members that docker is free to fill with anything are kept as
JSON values.
-/

namespace ProxyFleet.Docker

/-- The state of a container as docker describes it. -/
structure Container where
  id : Json
  name : Text
  status : Text
  labels : Json
  networks : List (Text × Json)
  networkMode : Json
  mounts : List (Json × Json)
  created : Option Moment
  exitCode : Json
  started : Option Moment
  finished : Option Moment

namespace Container

/-- The networks of a container with its address in each. -/
def readNetworks (j : Json) : Except Failure (List (Text × Json)) := do
  let ms ← j.members
  ms.mapM fun (name, settings) => do
    let address ← settings.lookupOr "IPAddress" (.str "")
    return (name, address)

/-- The source and destination of a mount. -/
def readMount (j : Json) : Except Failure (Json × Json) := do
  let source ← j.lookupOr "Source" (.str "")
  let dest ← j.lookupOr "Destination" (.str "")
  return (source, dest)

def ofJson (data : Json) : Except Failure Container := do
  let state := (← data.lookup "State").orEmpty
  let config := (← data.lookup "Config").orEmpty
  let host := (← data.lookup "HostConfig").orEmpty
  let networks := (← (← data.lookup "NetworkSettings").orEmpty.lookup "Networks").orEmpty
  let id ← data.require "Id"
  let name ← (← data.require "Name").asText
  let status ← (← state.lookupOr "Status" (.str "")).asText
  let labels := (← config.lookup "Labels").orEmpty
  let networks ← readNetworks networks
  let networkMode ← host.lookup "NetworkMode"
  let mounts ← data.lookup "Mounts"
  let mounts ← (if mounts.isBlank then .arr [] else mounts : Json).elements
  let mounts ← mounts.mapM readMount
  let created ← data.lookup "Created"
  let exitCode ← state.lookup "ExitCode"
  let started ← state.lookup "StartedAt"
  let finished ← state.lookup "FinishedAt"
  return {
    id
    name := Text.stripStart '/' name
    status := Text.lower status
    labels
    networks
    networkMode
    mounts
    created := readTimestamp? created
    exitCode
    started := readTimestamp? started
    finished := readTimestamp? finished }

def ofList (j : Json) : Except Failure (List Container) := do
  let documents ← j.elements
  documents.mapM ofJson

end Container

def readDocument (s : Text) : Except Failure Json :=
  match Json.read s with
  | .ok j => .ok j
  | .error .malformed => .error .malformedJson
  | .error .numberTooLong => .error .badNumeral
  | .error (.tooDeep object) => .error (.tooDeep object)

/-- Whether a failure shows that a document does not have the expected shape. Access to a member of
something that has no members is not among them. -/
def isShapeFailure : Failure → Bool
  | .malformedJson | .key _ | .outOfRange | .wrongType => true
  | _ => false

/-- A failure of the shape of a document as a failure to parse it. -/
def explained {α : Type} (what : Text) : Except Failure α → Except Failure α
  | .ok x => .ok x
  | .error e => .error (if isShapeFailure e then .runtime (what ++ ": " ++ e.message) else e)

/-- The containers that a text describes, none if it is blank. -/
def readContainers (s : Text) : Except Failure (List Container) :=
  if (Text.strip s).isEmpty then .ok []
  else
    explained "Failed to parse container info" do
      let j ← readDocument s
      Container.ofList j

end ProxyFleet.Docker
