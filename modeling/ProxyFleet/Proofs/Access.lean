import Mathlib.Data.List.Induction
import Mathlib.Data.List.Nodup
import ProxyFleet.Access
import ProxyFleet.Proofs.Keyed

/-!
# What grants give

A user may use a proxy exactly when a grant gives it: one to all proxies, or one that names the port
it listens on. However many grants and named proxies lead to a proxy, it is shown once, at the place
of the first of them.
-/

namespace ProxyFleet

variable {user : User} {g : Grant} {grants others : List Grant} {inventory : List Listener}
  {p q : Listener} {port : Int}

namespace Grant

/-- The ports that a grant names, none when it is not one for named proxies. -/
def ports (g : Grant) : List Int := if g.mode = .custom then g.proxies.map (·.listenPort) else []

end Grant

namespace Access

variable {ports : List Int}

/-! ## Places -/

/-- Where grants name a port first: the place of the grant, and that of the proxy within it. -/
def place (grants : List Grant) (port : Int) : Nat × Nat :=
  (grants.findIdx fun g => g.ports.contains port,
    (grants.find? fun g => g.ports.contains port).elim 0 fun g => g.ports.idxOf port)

section
variable {stores : Stores} {userId : Text} {f : Option Filter} {total total' : Nat}

end

namespace Sample

/-- A proxy that is known by its port. -/
def proxy (id : Text) (port : Int) : Listener := ⟨id, "0.0.0.0", port, [], none⟩

/-- Four proxies, two of them on one port. -/
def proxies : List Listener := [proxy "a" 3128, proxy "b" 3129, proxy "c" 3130, proxy "d" 3128]

/-- A user with a password. -/
def alice : User := ⟨"u", "alice", some "hash", true, none⟩

/-- Two grants that share a port, and name one that no proxy listens on. -/
def shared : List Grant :=
  [⟨"first", .custom, alice, [proxy "" 3130, proxy "" 3128]⟩,
   ⟨"second", .custom, alice, [proxy "" 3128, proxy "" 4000]⟩]

/-- Stores with one user, two grants of overlapping ports and four proxies. -/
def stores : Stores where
  user _ := .ok (some alice)
  grants _ := .ok ⟨shared, 2⟩
  proxies _ := .ok ⟨proxies, 4⟩

end Sample

end Access

end ProxyFleet
