import ProxyFleet.Catalogue.Store
import ProxyFleet.Catalogue.Web

/-!
# The world around the fleet

The docker daemon, the discovery service and the key store together, and operations on one of them
as operations on all.
-/

namespace ProxyFleet

/-- Everything outside the fleet. -/
structure World where
  docker : Docker.Session
  web : Web.Session
  store : Catalogue.Store

namespace World

abbrev Run (α : Type) := ExceptT Failure (StateM World) α

/-- An operation on the docker daemon. -/
def onDocker {α : Type} (x : Docker.Run α) : Run α := fun w =>
  let (outcome, docker) := x w.docker
  (outcome, { w with docker })

def onWeb {α : Type} (x : Web.Run α) : Run α := fun w =>
  let (outcome, web) := x w.web
  (outcome, { w with web })

def onStore {α : Type} (x : Catalogue.Store → Except Failure α × Catalogue.Store) :
    Run α := fun w =>
  let (outcome, store) := x w.store
  (outcome, { w with store })

/-- The outcome of an operation as a value. -/
def attempt {α : Type} (x : Run α) : Run (Except Failure α) := fun w =>
  let (outcome, w) := x w
  (.ok outcome, w)

end World

end ProxyFleet
