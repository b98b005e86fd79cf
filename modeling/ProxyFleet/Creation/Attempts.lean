import ProxyFleet.Creation.Assembly
import ProxyFleet.Creation.Collision

/-!
# Attempts

A creation makes attempts until one succeeds, one fails for another reason than a collision, or
their number is used up. A container that an attempt has made and that did not start is removed
before anything else is done.
-/

namespace ProxyFleet.Creation

open Docker

/-- How far an attempt got: the port it chose, the container it made, and the runner or the failure
it ended with. -/
structure Outcome where
  port : Option Int
  container : Option Text
  result : Except Failure Runner

/-- Removes the containers of the order that were made by earlier attempts and never started. They
are not looked for when the labels that name the owners cannot be written. -/
def removeStale (s : Settings) (service : Service) (o : Order) : Run Unit := do
  let owners ← Model.writeAll s.docker.keyPrefix secretFields o.models
  let stale ← list
    { labels := s.projectFilter service :: owners.map assignment
      status := ["created"] }
  stale.forM fun c =>
    match c.id with
    | .str id => remove id true true
    | _ => throw .wrongType

/-- Clears the way and chooses what the container needs. -/
def prepareAttempt (s : Settings) (service : Service) (o : Order) (failed : List Int) :
    Run Allocation := do
  removeStale s service o
  allocate s service o failed

def attemptOnce (s : Settings) (service : Service) (o : Order) (g : Groundwork)
    (failed : List Int) : Run Outcome := do
  let id ← newId
  match ← attempt (prepareAttempt s service o failed) with
  | .error e => return ⟨none, none, .error e⟩
  | .ok a =>
    match ← attempt (create (specOf s o g id a)) with
    | .error e => return ⟨a.port, none, .error e⟩
    | .ok container =>
      match ← attempt (start container) with
      | .error e => return ⟨a.port, some container, .error e⟩
      | .ok _ => return ⟨a.port, some container, .ok (runnerOf s service o id container a)⟩

/-- Whether a failed attempt is worth another one. A relay that was asked for a port does not try
again when that port is taken. -/
def isRetryable (service : Service) (o : Order) (e : Failure) : Bool :=
  if service = .relay ∧ o.fixedPort.isSome ∧ e.isPortCollision then false else e.isCollision

/-- The failure of a creation whose last attempt ended with `e`. -/
def finalFailure (service : Service) (port : Option Int) (container : Option Text)
    (e : Failure) : Failure :=
  if service = .relay ∧ e.isPortCollision then .portInUse port
  else if e.isFleet then e
  else .repository e container.isSome container

/-- Removes the container of a failed attempt, if it made one. -/
def cleanUp (container : Option Text) : Run (Except Failure Unit) :=
  match container with
  | some id => if id.isEmpty then return .ok () else attempt (remove id true true)
  | none => return .ok ()

/-- The ports that collided, after one more attempt. -/
def failedPorts (o : Order) (port : Option Int) (failed : List Int) : List Int :=
  if o.fixedPort.isNone then port.toList ++ failed else failed

/-- Makes attempts, `retries` being the number that may follow the first. -/
def makeAttempts (s : Settings) (service : Service) (o : Order) (g : Groundwork) :
    Nat → List Int → Run Runner
  | retries, failed => do
    let outcome ← attemptOnce s service o g failed
    match outcome.result with
    | .ok r => return r
    | .error e =>
      let final := finalFailure service outcome.port outcome.container e
      match ← cleanUp outcome.container with
      | .error c => throw (.combined final [.repository c false none])
      | .ok _ =>
        match retries with
        | 0 => throw final
        | retries + 1 =>
          if isRetryable service o e then
            pause
            makeAttempts s service o g retries (failedPorts o outcome.port failed)
          else throw final

/-- The failure of groundwork as the caller sees it. -/
def wrapFailure {α : Type} : Except Failure α → Except Failure α
  | .ok x => .ok x
  | .error e => .error e.wrap

/-- Creates and starts the container of a runner template. -/
def createRunner (s : Settings) (service : Service) (r : Runner) : Run Runner := do
  let o ← Order.ofTemplate service r
  let g ← wrapFailure (← attempt (layGroundwork s service o))
  makeAttempts s service o g (s.maxAttempts - 1).toNat []

/-- The creator that is registered for a service. -/
def chooseCreator {α : Type} (serviceOf : α → Json) (service : Service)
    (creators : Except Failure (List α)) : Except Failure α :=
  match creators with
  | .error e => .error (.repository e false none)
  | .ok creators =>
    match creators.find? fun c => Service.ofJson? (serviceOf c) = some service with
    | some c => .ok c
    | none => .error .unknown

/-- Creates a runner by the creator of its kind. -/
def createByService (s : Settings) (r : Runner) : Run Runner := do
  let service ←
    chooseCreator (fun service => .str (Service.name service)) r.service (.ok Service.all)
  createRunner s service r

end ProxyFleet.Creation
