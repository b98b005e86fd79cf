import ProxyFleet.Label.Flat
import ProxyFleet.Runner

/-!
# Creation orders

A runner template becomes an order when its label can be read and names every owner, with every
field, that the kind of runner needs. Nothing is asked of docker before.
-/

namespace ProxyFleet.Creation

/-- What a creation needs to know about a template. -/
structure Order where
  template : Runner
  models : List Model
  identity : Model
  provider : Option Model
  /-- The host port that a relay has to publish. -/
  fixedPort : Option Int

/-- Fails unless all of the fields were supplied. -/
def requireFields (m : Model) (names : List Text) : Except Failure Unit :=
  match m.missing names with
  | [] => .ok ()
  | missing => .error (.incompleteInput missing)

/-- The order for an identity node, which needs a keystore. -/
def identityOrder (r : Runner) (models : List Model) : Except Failure Order := do
  let identity ← Model.find models .identity
  requireFields identity ["id", "identity", "passphrase"]
  if r.keystore?.isNone then throw (.incompleteInput ["volumes"])
  return ⟨r, models, identity, none, none⟩

/-- The order for a connector, which needs the identity of a user. -/
def connectorOrder (r : Runner) (models : List Model) : Except Failure Order := do
  let identity ← Model.find models .identity
  requireFields identity ["id", "identity"]
  let provider ← Model.find models .provider
  requireFields provider ["id", "provider_identity", "user_identity"]
  if (provider.text "user_identity").isEmpty then throw (.incompleteInput ["user_identity"])
  return ⟨r, models, identity, some provider, none⟩

/-- The order for a relay, which may ask for a port. -/
def relayOrder (r : Runner) (models : List Model) : Except Failure Order := do
  let identity ← Model.find models .identity
  requireFields identity ["id"]
  let provider ← Model.find models .provider
  requireFields provider ["id"]
  let listener ← Model.find models .listener
  requireFields listener ["id"]
  return ⟨r, models, identity, some provider, r.socketPort⟩

/-- The order that a template gives to the creator of a kind of runner. -/
def Order.ofTemplate (service : Service) (r : Runner) : Except Failure Order := do
  let models ← r.label.read
  match service with
  | .identity => identityOrder r models
  | .connector => connectorOrder r models
  | .relay => relayOrder r models

end ProxyFleet.Creation
