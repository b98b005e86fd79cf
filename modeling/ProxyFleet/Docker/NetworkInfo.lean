import ProxyFleet.Address.Network
import ProxyFleet.Docker.Container

/-!
# Docker networks

The address pool of a docker network and the addresses that containers hold in it, and the choice
of a free address.
-/

namespace ProxyFleet.Docker

structure NetworkInfo where
  name : Text
  subnet : Json
  gateway : Json
  addresses : List Text

namespace NetworkInfo

/-- The addresses that containers hold, without their prefix lengths. Containers without an address
are left out. -/
def readAddresses : List (Text × Json) → Except Failure (List Text)
  | [] => .ok []
  | (_, container) :: rest => do
    let address ← container.lookup "IPv4Address"
    if address.isBlank then readAddresses rest
    else
      let text ← address.asText
      let others ← readAddresses rest
      return (Text.split '/' text).headD "" :: others

def ofJson (name : Text) (j : Json) : Except Failure NetworkInfo := do
  let data ← j.first
  let pool ← (← (← data.require "IPAM").require "Config").first
  let containers := (← data.lookup "Containers").orEmpty
  let subnet ← pool.require "Subnet"
  let gateway ← pool.lookup "Gateway"
  let addresses ← readAddresses (← containers.members)
  return { name, subnet, gateway, addresses }

def read (name s : Text) : Except Failure NetworkInfo :=
  explained ("Failed to parse network info for " ++ Text.quoted name) do
    let j ← readDocument s
    ofJson name j

end NetworkInfo

def readAddress (j : Json) : Except Failure Address :=
  match Address.ofJson? j with
  | some a => .ok a
  | none => .error (.value (j.shown ++ " does not appear to be an IPv4 or IPv6 address"))

/-- The addresses of a network that no new container may take: its first one, the gateway, and
those that containers hold. -/
def reserved (base : Address) (gateway : Json) (held : List Json) :
    Except Failure (List Address) := do
  let gateway ← if gateway.isBlank then pure [] else pure [← readAddress gateway]
  let held ← held.mapM readAddress
  return base :: (gateway ++ held)

def readNetwork (j : Json) : Except Failure Network :=
  match Network.ofJson? j with
  | some n => .ok n
  | none => .error (.value (j.shown ++ " does not appear to be an IPv4 or IPv6 network"))

/-- The least host address of a network that is not reserved. -/
def chooseAddress (name : Text) (subnet gateway : Json) (held : List Json) :
    Except Failure Text := do
  let network ← readNetwork subnet
  let reserved ← reserved network.base gateway held
  match network.freeHost? reserved with
  | some a => return a.text
  | none => throw (.addressesExhausted name)

/-- The least host address of a docker network that is not reserved. -/
def NetworkInfo.freeAddress (info : NetworkInfo) : Except Failure Text :=
  chooseAddress info.name info.subnet info.gateway (info.addresses.map .str)

end ProxyFleet.Docker
