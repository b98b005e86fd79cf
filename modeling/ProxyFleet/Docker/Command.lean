import ProxyFleet.Docker.NetworkInfo
import ProxyFleet.Docker.Session
import ProxyFleet.Docker.Spec

/-!
# Docker commands

Creating, starting, removing, listing and inspecting containers, and the volumes and networks that
they use.
-/

namespace ProxyFleet.Docker

/-- Creates a container and returns its identifier. -/
def create (spec : Spec) : Run Text := do
  return Text.strip (← run spec.toArgs)

def start (id : Text) : Run Unit := do
  let _ ← run ["start", id]

def removeArgs (id : Text) (force volumes : Bool) : List Text :=
  ("rm" : Text) :: (switch "--force" force ++ switch "--volumes" volumes ++ [id])

/-- Removes a container; one that is already gone is no failure. -/
def remove (id : Text) (force volumes : Bool) : Run Unit := do
  match ← attempt (run (removeArgs id force volumes)) with
  | .ok _ => return ()
  | .error (.command args status err out) =>
    if Text.occursIn "No such container" err then return ()
    else throw (.command args status err out)
  | .error e => throw e

/-- Whether error output complains about vanished containers and nothing else. -/
def onlyMissing (err : Text) : Bool :=
  let lines := (Text.lines err).filter fun line => !(Text.strip line).isEmpty
  !lines.isEmpty && lines.all fun line =>
    Text.occursIn "No such object" line || Text.occursIn "No such container" line

/-- The output of an inspection. When containers have vanished, docker still prints the others. -/
def inspectionOutput : Except Failure Text → Except Failure Text
  | .error (.command args status err out) =>
    if onlyMissing err then .ok out else .error (.command args status err out)
  | outcome => outcome

/-- Inspects containers, leaving out those that have vanished. -/
def inspect (ids : List Text) : Run (List Container) := do
  if ids.isEmpty then return []
  let out ← inspectionOutput (← attempt (run ("inspect" :: "--type" :: "container" :: ids)))
  readContainers out

/-- Characters with a meaning in search patterns. -/
def isPatternSymbol (c : Symbol) : Bool :=
  ("()[]\x7b\x7d?*+-|^$\\.&~# \t\n\r\x0b\x0c" : Text).contains c

/-- A text as a pattern that matches it alone. -/
def patternText (s : Text) : Text :=
  s.flatMap fun c => if isPatternSymbol c then ['\\', c] else [c]

/-- The filter for an exact container name, none for a blank one. -/
def nameFilter : Json → Except Failure (List Text)
  | .str s => .ok (if s.isEmpty then [] else ["name=^/" ++ patternText s ++ "$"])
  | j => if j.isBlank then .ok [] else .error .wrongType

/-- Which containers to list: those with all of the labels, in one of the states, of the given name
and with the given identifiers; `stopped` includes containers that do not run. -/
structure Query where
  labels : List Text := []
  status : List Text := []
  name : Json := .null
  ids : List Text := []
  stopped : Bool := true

def Query.toArgs (q : Query) : Except Failure (List Text) := do
  let name ← nameFilter q.name
  return "ps" :: "--quiet" :: "--no-trunc" :: (switch "--all" q.stopped ++
    flagged "--filter"
      (assignments "label" q.labels ++ assignments "status" q.status ++ name ++
        assignments "id" q.ids))

/-- The identifiers in the output of a listing, one on each line. -/
def readIds (out : Text) : List Text :=
  (Text.split '\n' (Text.strip out)).filter fun id => !id.isEmpty

def list (q : Query) : Run (List Container) := do
  let args ← q.toArgs
  let out ← run args
  inspect (readIds out)

def volumeExists (name : Text) : Run Bool := do
  match ← attempt (run ["volume", "inspect", name]) with
  | .ok _ => return true
  | .error (.command args status err out) =>
    if Text.occursIn "no such volume" (Text.lower err) then return false
    else throw (.command args status err out)
  | .error e => throw e

def createVolume (name : Text) (options labels : List (Text × Text)) : Run Unit := do
  let _ ← run ("volume" :: "create" :: "--driver" :: "local" ::
    (flagged "--opt" (options.map assignment) ++ flagged "--label" (labels.map assignment) ++
      [name]))

def inspectNetwork (name : Text) : Run NetworkInfo := do
  let out ← run ["network", "inspect", name]
  NetworkInfo.read name out

end ProxyFleet.Docker
