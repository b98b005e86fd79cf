import ProxyFleet.Failure
import ProxyFleet.Text.Lower

/-!
# Collisions

Names, addresses and ports are chosen without a lock, so that two creators may choose the same. The
daemon then refuses one of them, which its error output shows.
-/

namespace ProxyFleet.Failure

/-- What the daemon says about a port that is taken. -/
def portMarker : Text := "port is already allocated"

/-- What the daemon says about an address, a name or a port that is taken. -/
def collisionMarkers : List Text :=
  ["address already in use", "is already in use by container", portMarker]

/-- Whether a docker command failed because a name, an address or a port is taken. -/
def isCollision : Failure → Bool
  | command _ _ err _ => collisionMarkers.any fun marker => Text.occursIn marker (Text.lower err)
  | _ => false

/-- Whether a docker command failed because a port is taken. -/
def isPortCollision : Failure → Bool
  | command _ _ err _ => Text.occursIn portMarker (Text.lower err)
  | _ => false

end ProxyFleet.Failure
