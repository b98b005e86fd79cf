import ProxyFleet.Creation.Naming
import ProxyFleet.Creation.Settings

/-!
# Allocation

Names, addresses and ports of new containers. All of them follow from what docker lists at the
moment; nothing is remembered but the ports that collided in earlier attempts of the same creation.
-/

namespace ProxyFleet.Creation

open Docker

/-- What one attempt has chosen. -/
structure Allocation where
  name : Text
  address : Option Text
  port : Option Int
  deriving DecidableEq, Repr

/-- A number that can be written; names and labels hold its numeral. -/
def writable (n : Int) : Except Failure Int :=
  if Text.hasNumeral n then .ok n else .error .badNumeral

def allocateName (s : Settings) (service : Service) : Run Text := do
  let containers ← list { labels := [s.projectFilter service] }
  let stem := s.namePrefix service
  let number ← (nextNumber stem (containers.map (·.name))).bind writable
  return stem ++ "-" ++ Text.numeral number

def allocateAddress (s : Settings) : Run Text := do
  let info ← inspectNetwork s.docker.network
  info.freeAddress

/-- The port that a label value stands for, none when it stands for no whole number. -/
def readPort (j : Json) : Except Failure (Option Int) :=
  match j with
  | .int n => .ok (some n)
  | .bool b => .ok (some (if b then 1 else 0))
  | .float (.infinite _) => .error .overflow
  | .float x => .ok x.truncate?
  | .str text => .ok (Text.readInt? text)
  | _ => .error .wrongType

/-- The ports that containers publish by their labels. -/
def usedPorts (key : Text) : List Container → Except Failure (List Int)
  | [] => .ok []
  | c :: rest => do
    let label ← c.labels.lookupOr key (.str "")
    let port ← readPort label
    let ports ← usedPorts key rest
    return port.toList ++ ports

/-- The least port, from the start port on, that no relay publishes and that has not collided. -/
def allocatePort (s : Settings) (failed : List Int) : Run Int := do
  let containers ← list { labels := [s.projectFilter .relay, s.portKey] }
  let used ← usedPorts s.portKey containers
  writable (leastFree (failed ++ used) s.relay.startPort)

/-- The port of a relay: the one that is asked for unless it is zero. -/
def choosePort (s : Settings) (o : Order) (failed : List Int) : Run Int :=
  match o.fixedPort with
  | some port => if port = 0 then allocatePort s failed else writable port
  | none => allocatePort s failed

/-- The numbers of the options that the container of a service is described with. -/
def Settings.numbers (s : Settings) : Service → List Int
  | .identity => []
  | .connector => [s.connector.redisPort, s.connector.redisDb]
  | .relay => [s.relay.privatePort, s.relay.targetPort]

/-- Fails unless all of these numbers can be written. -/
def checkNumbers (s : Settings) (service : Service) : Except Failure Unit :=
  (s.numbers service).forM fun n => do
    let _ ← writable n

/-- Chooses what a container needs and makes sure that it can be described. -/
def allocate (s : Settings) (service : Service) (o : Order) (failed : List Int) :
    Run Allocation := do
  let name ← allocateName s service
  match service with
  | .connector =>
    checkNumbers s service
    return ⟨name, none, none⟩
  | .identity =>
    let address ← allocateAddress s
    return ⟨name, some address, none⟩
  | .relay =>
    let address ← allocateAddress s
    let port ← choosePort s o failed
    checkNumbers s service
    return ⟨name, some address, some port⟩

end ProxyFleet.Creation
