import ProxyFleet.Text.Basic

/-!
# Container specifications

Everything that is needed to create one container, and the arguments that it is created with.
-/

namespace ProxyFleet.Docker

/-- A container to be created. `network` is a network name, or `container:<id>` for the network of
another container; published ports are pairs of a host port and a container port. -/
structure Spec where
  image : Text
  name : Text
  command : List Text := []
  labels : List (Text × Text) := []
  env : List (Text × Text) := []
  network : Option Text := none
  address : Option Text := none
  binds : List Text := []
  ports : List (Int × Int) := []
  restart : Option Text := some "always"
  capabilities : List Text := []
  devices : List Text := []
  logOptions : List (Text × Text) := []
  deriving DecidableEq, Repr

/-- A switch, if it is on. -/
def switch (name : Text) (on : Bool) : List Text := if on then [name] else []

/-- A flag before every argument. -/
def flagged (flag : Text) (args : List Text) : List Text := args.flatMap fun a => [flag, a]

/-- A flag and an argument, nothing for a missing or empty one. -/
def optional (flag : Text) : Option Text → List Text
  | none => []
  | some a => if a.isEmpty then [] else [flag, a]

/-- A pair as `key=value`. -/
def assignment (p : Text × Text) : Text := p.1 ++ "=" ++ p.2

/-- One key with each of several values. -/
def assignments (key : Text) (values : List Text) : List Text :=
  values.map fun value => assignment (key, value)

def published (p : Int × Int) : Text := Text.numeral p.1 ++ ":" ++ Text.numeral p.2 ++ "/tcp"

/-- The arguments that configure the log of a container. -/
def Spec.logArgs (options : List (Text × Text)) : List Text :=
  if options.isEmpty then []
  else "--log-driver" :: "json-file" :: flagged "--log-opt" (options.map assignment)

def Spec.toArgs (s : Spec) : List Text :=
  ("create" : Text) :: flagged "--name" [s.name] ++
  flagged "--label" (s.labels.map assignment) ++
  flagged "--env" (s.env.map assignment) ++
  optional "--network" s.network ++
  optional "--ip" s.address ++
  flagged "-v" s.binds ++
  flagged "-p" (s.ports.map published) ++
  optional "--restart" s.restart ++
  flagged "--cap-add" s.capabilities ++
  flagged "--device" s.devices ++
  Spec.logArgs s.logOptions ++
  [s.image] ++
  s.command

end ProxyFleet.Docker
