import ProxyFleet.Catalogue.Source

/-!
# The identity cache

The discovery service cannot be asked for an identifier, only for the identity that it is derived
from. Every listing therefore remembers the identities behind its identifiers for five minutes.
Writing to the cache neither delays nor fails a read.
-/

namespace ProxyFleet.Catalogue.Cache

/-- The key of an identifier. -/
def key (id : Text) : Text := "myst_provider:" ++ id

/-- How long an identity is remembered. -/
def lifetime : Nat := 300

/-- The identities of providers under the keys of their identifiers. -/
def mapping (providers : List Provider) : List (Text × Text) :=
  Keyed.ofList (providers.map fun p => (key p.id, p.identity))

/-- Lets keys expire one after another, whatever the store answers. -/
def expireAll : List Text → Store → Store
  | [], s => s
  | key :: rest, s => expireAll rest (s.expire key lifetime).2

/-- Remembers pairs. When they cannot be written nothing is left to expire. -/
def remember (pairs : List (Text × Text)) (s : Store) : Store :=
  match s.setAll pairs with
  | (.error _, s) => s
  | (.ok _, s) => expireAll (Keyed.keys pairs) s

/-- Remembers the identities of a listing. -/
def rememberAll (providers : List Provider) : World.Run Unit :=
  World.onStore fun s =>
    (.ok (), if providers.isEmpty then s else remember (mapping providers) s)

/-- The remembered identity of an identifier. A store that cannot be read remembers nothing. -/
def identityOf (id : Text) : World.Run (Option Text) :=
  World.onStore fun s =>
    match s.get (key id) with
    | (.error (.store _ _), s) => (.ok none, s)
    | (outcome, s) => (outcome, s)

def getAll (source : Source) (f : Filter) : World.Run (Listing Provider) := do
  let listing ← source.getAll f
  rememberAll listing.items
  return listing

/-- The provider of an identifier, found by its identity if that is remembered. -/
def getById (source : Source) (id : Text) : World.Run (Option Provider) := do
  match ← identityOf id with
  | none => source.getById id
  | some identity =>
    let listing ←
      source.getAll (Filter.everything.requireJson "provider_identity" (.str identity))
    return listing.items.head?

def source (inner : Source) : Source := ⟨getAll inner, getById inner⟩

end ProxyFleet.Catalogue.Cache
