import ProxyFleet.Filter.Listing
import ProxyFleet.Gather
import ProxyFleet.Proxy

/-!
# Access

The proxies that a user may use follow from the user's grants and the inventory of proxies; they
are stored nowhere.
-/

namespace ProxyFleet.Access

/-- Adds to the granted proxies those that listen on a port. -/
def grantPort (inventory : List Listener) (user : User) (granted : List (Text × UsersProxy))
    (port : Int) : List (Text × UsersProxy) :=
  (inventory.filter fun p => p.listenPort = port).foldl
    (fun acc p => Keyed.putNew p.id (.ofListener p user) acc) granted

def grantedPorts (grants : List Grant) : List Int :=
  (grants.filter fun g => g.mode = .custom).flatMap fun g => g.proxies.map (·.listenPort)

/-- The proxies that grants give: all of them if one grant says so, else those on the named ports,
each once. -/
def resolve (user : User) (grants : List Grant) (inventory : List Listener) : List UsersProxy :=
  if grants.any fun g => g.mode = .all then inventory.map fun p => .ofListener p user
  else ((grantedPorts grants).foldl (grantPort inventory user) []).map Prod.snd

inductive Query where
  | user (id : Text)
  | grants (f : Filter)
  | proxies (f : Filter)

structure Stores where
  user : Text → Except Failure (Option User)
  grants : Filter → Except Failure (Listing Grant)
  proxies : Filter → Except Failure (Listing Listener)

def grantFilter (userId : Text) : Filter := Filter.everything.requireJson "user_id" (.str userId)

def queries (userId : Text) : List Query :=
  [.user userId, .grants (grantFilter userId), .proxies .everything]

/-- The proxies of a user that satisfy a filter. All stores are asked even when one of them
fails. -/
def getByUserId (stores : Stores) (userId : Text) (f : Option Filter) :
    Except Failure (Listing UsersProxy) := do
  let (user, grants, inventory) ←
    Gather.pair (stores.user userId)
      (Gather.pair (stores.grants (grantFilter userId)) (stores.proxies .everything))
  match user with
  | none => return .empty
  | some user =>
    if grants.items.isEmpty then return .empty
    else
      Listing.ofFilter UsersProxy.attr none (f.getD .default)
        (resolve user grants.items inventory.items)

end ProxyFleet.Access
