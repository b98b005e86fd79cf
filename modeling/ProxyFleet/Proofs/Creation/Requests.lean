import ProxyFleet.Proofs.Creation.Success
import ProxyFleet.Proofs.Docker.Filters
import ProxyFleet.Proofs.Docker.Trace

/-!
# What a creation asks

Everything that a creation asks of docker, from its groundwork to its last attempt: listings that
name its service, the identity or its owners, the creation of containers that fit the order, and
commands about single containers, volumes and networks.
-/

namespace ProxyFleet.Creation
open Docker

variable {s : Settings} {service : Service} {o : Order} {g : Groundwork} {r : Runner}
  {failed : List Int} {binary : Text} {args : List Text} {P Q : List Text → Prop}
  {events more : List Event} {e : Event} {α β : Type}

/-! ## Requests -/

/-- The arguments that a creation may ask with. -/
inductive Request (s : Settings) (service : Service) (o : Order) : List Text → Prop where
  | prepares {asked} : Preparatory s service o asked → Request s service o asked
  | stale : Request s service o (staleArgs s service o)
  | creates {ground id a} : Groundwork.Fits service ground → Allocation.Fits s service a →
    Request s service o (createArgs s o ground id a)
  | others {asked} : Commands ["inspect", "start", "rm"] asked → Request s service o asked

/-- The arguments that an attempt may ask with, once the groundwork is laid. -/
inductive AttemptRequest (s : Settings) (service : Service) (o : Order) (g : Groundwork) :
    List Text → Prop where
  | lists {q asked} : Lists s service o q → q.toArgs = .ok asked →
    AttemptRequest s service o g asked
  | stale : AttemptRequest s service o g (staleArgs s service o)
  | creates {id a} : Allocation.Fits s service a →
    AttemptRequest s service o g (createArgs s o g id a)
  | looks {asked} : Commands ["inspect", "network"] asked → AttemptRequest s service o g asked
  | acts {asked} : Commands ["start", "rm"] asked → AttemptRequest s service o g asked

/-- An attempt asks for commands on containers and networks only. -/
lemma AttemptRequest.commands (h : AttemptRequest s service o g args) :
    Commands ["ps", "create", "inspect", "network", "start", "rm"] args := by
  cases h with
  | lists _ asked => exact ⟨"ps", by decide, Query.toArgs_head asked⟩
  | stale => exact ⟨"ps", by decide, rfl⟩
  | creates => exact Commands.mono (by decide) _ (Spec.toArgs_creates _)
  | looks asked => exact Commands.mono (by decide) _ asked
  | acts asked => exact Commands.mono (by decide) _ asked

namespace Request

/-- On suitable groundwork, attempts ask for nothing that a creation may not ask for. -/
lemma ofAttempt (fits : g.Fits service) (h : AttemptRequest s service o g args) :
    Request s service o args := by
  cases h with
  | lists lists asked => exact .prepares (.inl ⟨_, lists, asked⟩)
  | stale => exact .stale
  | creates allocated => exact .creates fits allocated
  | looks asked => exact .prepares (.inr (Commands.mono (by decide) _ asked))
  | acts asked => exact .others (Commands.mono (by decide) _ asked)

/-- A creation lists the containers of its order that were never started, and others before. -/
lemma listing (h : Request s service o args) (lists : Commands ["ps"] args) :
    args = staleArgs s service o ∨ ∃ q, Lists s service o q ∧ q.toArgs = .ok args := by
  cases h with
  | prepares h =>
    exact .inr (h.resolve_right fun asked => Commands.not_of_not_mem (by decide) asked lists)
  | stale => exact .inl rfl
  | creates => exact absurd lists (Commands.not_of_not_mem (by decide) (Spec.toArgs_creates _))
  | others asked => exact absurd lists (Commands.not_of_not_mem (by decide) asked)

/-- The containers that a creation creates fit its order. -/
lemma creation (h : Request s service o args) (creates : Commands ["create"] args) :
    ∃ g id a, g.Fits service ∧ a.Fits s service ∧ args = createArgs s o g id a := by
  cases h with
  | creates fits fits' => exact ⟨_, _, _, fits, fits', rfl⟩
  | prepares h =>
    have prepares := admits_preparing.preparatory s service o args h
    exact absurd creates (Commands.not_of_not_mem (by decide) prepares)
  | stale =>
    have lists : Commands ["ps"] (staleArgs s service o) := .head _ _
    exact absurd creates (Commands.not_of_not_mem (by decide) lists)
  | others asked => exact absurd creates (Commands.not_of_not_mem (by decide) asked)

end Request

/-- A call that creates a container is one of those that may be asked for. -/
lemma of_creation? (asks : e.Asks binary P) (h : creation? e = some args) :
    ∃ asked, args = asked.drop 1 ∧ Commands ["create"] asked ∧ P asked := by
  cases e with
  | pause => exact asks.elim
  | call argv reply =>
    obtain ⟨asked, rfl, p⟩ := asks
    rcases asked with _ | ⟨command, rest⟩
    · cases h
    · dsimp only [creation?] at h
      split at h
      · rename_i creates
        cases h
        exact ⟨_, rfl, creates ▸ .head _ _, p⟩
      · cases h

/-! ## Runs -/

/-- Whether events are pauses and calls with arguments that satisfy a predicate. -/
def Confined (binary : Text) (P : List Text → Prop) (events : List Event) : Prop :=
  ∀ e ∈ events, e = .pause ∨ e.Asks binary P

namespace Confined

/-- Nothing has been asked for in the beginning. -/
lemma nil : Confined binary P [] := nofun

/-- What may be asked for may be widened. -/
lemma mono (h : ∀ args, P args → Q args) (confined : Confined binary P events) :
    Confined binary Q events :=
  fun e mem => (confined e mem).imp_right fun asks => asks.mono h

/-- Events behind one another ask for what they ask for alone. -/
lemma append (h : Confined binary P events) (h' : Confined binary P more) :
    Confined binary P (events ++ more) := by
  intro e mem
  rcases List.mem_append.mp mem with mem | mem
  · exact h e mem
  · exact h' e mem

/-- A pause asks for nothing. -/
lemma pause : Confined binary P [.pause] := by
  intro e mem
  exact .inl (List.mem_singleton.mp mem)

end Confined

/-- Whether an operation adds nothing to the log but such events. -/
def Confines (binary : Text) (P : List Text → Prop) (x : Run α) : Prop :=
  Leaves binary (fun events _ => Confined binary P events) x

namespace Confines

variable {x : Run α} {f : α → Run β}

/-- An operation may ask for more than it does. -/
lemma mono (h : ∀ args, P args → Q args) (hx : Confines binary P x) : Confines binary Q x :=
  Leaves.mono (fun _ _ confined => confined.mono h) hx

/-- A given outcome asks for nothing. -/
lemma lift (x : Except Failure α) : Confines binary P (liftM x : Run α) := Leaves.lift .nil

/-- A value asks for nothing. -/
lemma pure (a : α) : Confines binary P (Pure.pure a : Run α) := lift (.ok a)

/-- A failure asks for nothing. -/
lemma throw (e : Failure) : Confines binary P (MonadExcept.throw e : Run α) := lift (.error e)

/-- Taking an identifier asks for nothing. -/
lemma newId : Confines binary P newId := by
  refine Leaves.newId.mono ?_
  rintro _ _ ⟨rfl, -⟩
  exact .nil

/-- Waiting asks for nothing. -/
lemma pause : Confines binary P pause := by
  refine Leaves.pause.mono ?_
  rintro _ _ ⟨rfl, -⟩
  exact .pause

/-- A composed operation asks for what it is composed of. -/
lemma composed (h : Composed P x) : Confines binary P x :=
  (Leaves.ofAsks h.asks).mono fun _ _ asks e mem => .inr (asks e mem)

/-- Operations one after another ask for what each of them may. -/
lemma bind (hx : Confines binary P x) (hf : ∀ a, Confines binary P (f a)) :
    Confines binary P (x >>= f) :=
  Leaves.bind hx (fun _ _ h => h) fun _ a h => Leaves.mono (fun _ _ h' => h.append h') (hf a)

/-- The outcome of an operation is had for the same requests. -/
lemma outcome (hx : Confines binary P x) : Confines binary P (attempt x) := by
  refine (Leaves.attempt hx).mono ?_
  rintro _ _ ⟨_, -, confined⟩
  exact confined

/-- After an attempt the operation goes on with what it has given, or with its failure. -/
lemma attempt {R : α → Prop} {f : Except Failure α → Run β} (hx : Confines binary P x)
    (yields : Yields R x) (failed : ∀ e, Confines binary P (f (.error e)))
    (went : ∀ a, R a → Confines binary P (f (.ok a))) :
    Confines binary P (Docker.attempt x >>= f) := by
  have both : Leaves binary
      (fun events r => Confined binary P events ∧ ∀ a, r = .ok a → R a) x := by
    intro σ eq
    obtain ⟨events, same, log, confined⟩ := hx σ eq
    exact ⟨events, same, log, confined, yields σ⟩
  refine .bind_attempt both fun events r ⟨confined, given⟩ => ?_
  have goes : Confines binary P (f r) := by
    cases r with
    | error e => exact failed e
    | ok a => exact went a (given a rfl)
  exact Leaves.mono (fun _ _ more => confined.append more) goes

end Confines

/-! ## Attempts -/

/-- An attempt asks for what attempts may. -/
lemma attemptOnce_confines (failed : List Int) :
    Confines binary (AttemptRequest s service o g) (attemptOnce s service o g failed) := by
  have others : ∀ args, Commands ["inspect", "rm", "network"] args →
      AttemptRequest s service o g args := by
    rintro args ⟨name, mem, head⟩
    by_cases removes : name = "rm"
    · exact .acts ⟨name, by simp [removes], head⟩
    · exact .looks ⟨name, by simpa [removes] using mem, head⟩
  have prepares : Composed (AttemptRequest s service o g) (prepareAttempt s service o failed) :=
    prepareAttempt_composed_of .stale .lists others failed
  have starts : ∀ id, Composed (AttemptRequest s service o g) (start id) := fun id =>
    (start_composed id).mono fun _ asked => .acts (Commands.mono (by decide) _ asked)
  refine .bind .newId fun id => .attempt (.composed prepares)
    (prepareAttempt_yields s service o failed) (fun e => .pure _) fun a allocated => ?_
  refine .attempt (.composed (.bind (.run (.creates allocated)) fun _ => .pure _)) (.any _)
    (fun e => .pure _) fun container _ => ?_
  exact .attempt (.composed (starts container)) (.any _) (fun e => .pure _) fun _ _ => .pure _

/-- So does the removal of what it left behind. -/
lemma cleanUp_confines (container : Option Text) :
    Confines binary (AttemptRequest s service o g) (cleanUp container) := by
  unfold cleanUp
  split
  · split
    · exact .pure _
    · exact .outcome (.composed ((remove_composed _ _ _).mono fun _ asked =>
        .acts (Commands.mono (by decide) _ asked)))
  · exact .pure _

/-- So do all attempts together. -/
lemma makeAttempts_confines (retries : Nat) (failed : List Int) :
    Confines binary (AttemptRequest s service o g) (makeAttempts s service o g retries failed) := by
  -- what an attempt may ask does not depend on the ports that have failed before
  induction retries using Nat.strongRecOn generalizing failed with
  | ind retries ih =>
    unfold makeAttempts
    refine .bind (attemptOnce_confines failed) fun outcome => ?_
    split
    · exact .pure _
    refine .bind (cleanUp_confines _) fun removal => ?_
    split
    · exact .throw _
    split
    · exact .throw _
    · split
      · exact .bind .pause fun _ => ih _ (Nat.lt_succ_self _) _
      · exact .throw _

/-- A creation asks what its groundwork asks for, and then what attempts on it ask for. -/
lemma createRunner_confines_of {R : Groundwork → Prop} (order : Order.ofTemplate service r = .ok o)
    (lays : Composed P (layGroundwork s service o)) (yields : Yields R (layGroundwork s service o))
    (attempts : ∀ g args, R g → AttemptRequest s service o g args → P args) :
    Confines binary P (createRunner s service r) := by
  unfold createRunner
  rw [order]
  show Confines _ _ (attempt (layGroundwork s service o) >>= fun laid =>
    liftM (wrapFailure laid) >>= fun g => makeAttempts s service o g (s.maxAttempts - 1).toNat [])
  refine .attempt (.composed lays) yields (fun e => ?_) fun g laid =>
    (makeAttempts_confines _ _).mono (attempts g · laid)
  exact .throw e.wrap

/-- A creation asks for what its order and its service need, and for nothing else. -/
lemma createRunner_confines (order : Order.ofTemplate service r = .ok o) :
    Confines binary (Request s service o) (createRunner s service r) :=
  createRunner_confines_of order ((layGroundwork_composed s service o).mono fun _ => .prepares)
    (layGroundwork_yields s service o) fun _ _ fits => .ofAttempt fits

end ProxyFleet.Creation
