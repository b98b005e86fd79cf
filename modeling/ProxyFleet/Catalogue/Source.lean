import ProxyFleet.Catalogue.World
import ProxyFleet.Filter.Listing
import ProxyFleet.Provider

/-!
# Sources of providers

Providers are listed by a filter or found by their identifier. The discovery service is a source,
and the cache and the registry make a further source out of one.
-/

namespace ProxyFleet.Catalogue

/-- Where providers come from. -/
structure Source where
  getAll : Filter → World.Run (Listing Provider)
  getById : Text → World.Run (Option Provider)

end ProxyFleet.Catalogue
