import ProxyFleet.Provider

/-!
# Registration

A provider is registered when a running identity node carries a label that refers to it. The first
such runner is the one that counts.
-/

namespace ProxyFleet.Catalogue

/-- Runners under the identifier and identity of the provider that they refer to. -/
abbrev RunnerIndex := List ((Text × Text) × Runner)

/-- The models of a runner's label, none when the label is unreadable. -/
def readableModels (r : Runner) : Except Failure (List Model) :=
  match r.label.read with
  | .ok models => .ok models
  | .error e => if e.isFleet then .ok [] else .error e

/-- The identifier and identity of the provider that a runner refers to completely. -/
def providerKey? (r : Runner) : Except Failure (Option (Text × Text)) := do
  let models ← readableModels r
  match models.find? fun m => m.owner = .provider with
  | none => return none
  | some m =>
    if (m.missing ["id", "provider_identity"]).isEmpty then
      return some (m.text "id", m.text "provider_identity")
    else return none

/-- The index after further runners. -/
def indexRunners (index : RunnerIndex) : List Runner → Except Failure RunnerIndex
  | [] => .ok index
  | r :: rest => do
    match ← providerKey? r with
    | none => indexRunners index rest
    | some key => indexRunners (Keyed.putNew key r index) rest

def RunnerIndex.ofRunners (runners : List Runner) : Except Failure RunnerIndex :=
  indexRunners [] runners

/-- The user whose identity a runner works with: that of its identity entry, else that of its
provider entry. -/
def userIdentity (r : Runner) : Except Failure (Option Text) := do
  let models ← r.label.read
  let ofProvider : Except Failure (Option Text) := do
    let provider ← Model.find models .provider
    return if provider.isDefault "user_identity" then none else some (provider.text "user_identity")
  match models.find? fun m => m.owner = .identity with
  | some identity =>
    if identity.isDefault "identity" then ofProvider else return some (identity.text "identity")
  | none => ofProvider

/-- A provider with its registration computed from an index. -/
def register (index : RunnerIndex) (p : Provider) : Except Failure Provider :=
  match Keyed.get? (p.id, p.identity) index with
  | none => .ok { p with registered := false, runner := none }
  | some r => do
    let identity ← userIdentity r
    return { p with
      registered := true
      runner := some r
      status := some .online
      userIdentity := (identity.filter fun s => !s.isEmpty).or p.userIdentity }

def registerAll (index : RunnerIndex) (ps : List Provider) : Except Failure (List Provider) :=
  ps.mapM (register index)

end ProxyFleet.Catalogue
