import ProxyFleet.Catalogue.Api
import ProxyFleet.Catalogue.Cache
import ProxyFleet.Catalogue.Registration
import ProxyFleet.Discovery
import ProxyFleet.Gather

/-!
# The provider registry

Providers joined with the running identity nodes. Both sources are always asked, and a filter is
applied after the join, so that conditions on computed attributes narrow the result and its total
alike.
-/

namespace ProxyFleet.Catalogue.Registry

/-- The filter that the source of providers is asked with. -/
def sourceFilter (f : Filter) : Filter :=
  pushedFields.foldl
    (fun acc field =>
      match f.condition? field.1 with
      | some c => acc.require field.1 c.operand
      | none => acc)
    .everything

/-- The filter for running identity nodes. -/
def runnerFilter : Filter :=
  (Filter.everything.requireJson "status" (.str RunnerStatus.running.name)).requireJson "service"
    (.str Service.identity.name)

def runnerFilterOf (id : Text) : Filter :=
  runnerFilter.require "label"
    (.label (.one ⟨.str Owner.provider.name, [("id", .str id)]⟩))

/-- The outcomes of two operations, the second one being run even when the first one fails. -/
def both {α β : Type} (x : World.Run α) (y : World.Run β) : World.Run (α × β) := do
  let a ← World.attempt x
  let b ← World.attempt y
  Gather.pair a b

/-- The listing of providers after they have been joined with runners. -/
def joinAll (f : Filter) (providers : List Provider) (runners : List Runner) :
    Except Failure (Listing Provider) := do
  let index ← RunnerIndex.ofRunners runners
  let merged ← registerAll index providers
  Listing.ofFilter Provider.attr none f merged

/-- A single provider after it has been joined with runners. -/
def joinOne (provider : Option Provider) (runners : List Runner) :
    Except Failure (Option Provider) :=
  match provider with
  | none => .ok none
  | some p => do
    let index ← RunnerIndex.ofRunners runners
    let merged ← register index p
    return some merged

def getAll (source : Source) (runners : Filter → World.Run (Listing Runner)) (f : Filter) :
    World.Run (Listing Provider) := do
  let (providers, live) ← both (source.getAll (sourceFilter f)) (runners runnerFilter)
  joinAll f providers.items live.items

def getById (source : Source) (runners : Filter → World.Run (Listing Runner)) (id : Text) :
    World.Run (Option Provider) := do
  let (provider, live) ← both (source.getById id) (runners (runnerFilterOf id))
  joinOne provider live.items

def source (inner : Source) (runners : Filter → World.Run (Listing Runner)) : Source :=
  ⟨getAll inner runners, getById inner runners⟩

/-- The registry of a fleet: the discovery service behind its cache, joined with the runners that
docker shows. -/
def ofFleet (creation : Creation.Settings) (api : ApiSettings) : Source :=
  source (Cache.source (Api.source api)) fun f => World.onDocker (Discovery.getAll creation f)

end ProxyFleet.Catalogue.Registry
