import ProxyFleet.Proofs.Creation.Requests
import ProxyFleet.Proofs.Creation.Retries

/-!
# The log of a creation, attempt by attempt

The log of a creation consists of what is asked for its groundwork and of the events of its
attempts, which are told apart by the pauses between them. An attempt creates one container at most,
from what has been allocated for it; what was asked meanwhile is what its preparation asks, followed
by commands about that container.
-/

namespace ProxyFleet.Creation
open Docker

variable {s : Settings} {service : Service} {o : Order} {g : Groundwork} {failed : List Int}
  {r : Runner} {a : Allocation} {binary id : Text} {args : List Text} {port n : Int} {e : Event}
  {t : Round} {retries : Nat} {rounds : List Round} {result : Except Failure Runner}
  {σ σ' : Session} {T : List Event → Except Failure Allocation → Prop}

/-! ## Containers that are created -/

/-- A call for other commands creates nothing. -/
lemma creation?_eq_none {names : List Text} (keeps : ("create" : Text) ∉ names)
    (asks : e.Asks binary (Commands names)) : creation? e = none := by
  refine Option.eq_none_iff_forall_ne_some.mpr fun args creation => ?_
  obtain ⟨_, -, creates, asked⟩ := of_creation? asks creation
  exact Commands.not_of_not_mem keeps asked creates

/-- The call that creates a container has the arguments of its specification. -/
lemma creation?_createArgs (binary : Text) (s : Settings) (o : Order) (g : Groundwork) (id : Text)
    (a : Allocation) (reply : Reply) : creation? (.call (binary :: createArgs s o g id a) reply) =
      some ((createArgs s o g id a).drop 1) := by
  rw [createArgs_cons]
  rfl

/-- A container that is created in a round is made from what has been allocated for it. -/
lemma Course.of_creation (course : Course s service o g failed σ t) (mem : e ∈ t.events)
    (creation : creation? e = some args) : ∃ id a events,
      Preparation s service o failed σ.numbered (.ok a) events ∧ t.outcome.port = a.port ∧
        args = (createArgs s o g id a).drop 1 := by
  have prepares : ∀ {events : List Event},
      (∀ e ∈ events, e.Asks σ.binary (Commands preparing)) → e ∉ events := by
    intro events asks mem
    cases (creation?_eq_none (by decide) (asks e mem)).symm.trans creation
  have others : ∀ {asked reply}, Commands ["start", "rm"] asked →
      e ≠ .call (σ.binary :: asked) reply := by
    rintro asked reply commands rfl
    have asks : (Event.call (σ.binary :: asked) reply).Asks σ.binary (Commands ["start", "rm"]) :=
      ⟨asked, rfl, commands⟩
    cases (creation?_eq_none (by decide) asks).symm.trans creation
  have starts : ∀ {id reply}, e ≠ .call (σ.binary :: startArgs id) reply :=
    others ⟨"start", by decide, rfl⟩
  have removes : ∀ {id reply}, e ≠ .call (σ.binary :: removeArgs id true true) reply :=
    others ⟨"rm", by decide, rfl⟩
  cases course with
  | unwritten => exact absurd mem List.not_mem_nil
  | unprepared prep => exact absurd mem (prepares prep.asks)
  | @refused a _ events _ prep | @started a _ _ events _ _ prep | @nameless a _ _ events _ _ prep
  | @removed a _ _ _ events _ _ _ prep =>
    -- all that follows the creation of the container is its start and its removal
    have created : ∃ reply, e = .call (σ.binary :: createArgs s o g σ.nextId a) reply := by
      have mem := (List.mem_append.mp mem).resolve_left (prepares prep.asks)
      simp only [List.mem_cons, List.not_mem_nil, or_false, starts, removes] at mem
      exact ⟨_, mem⟩
    obtain ⟨reply, rfl⟩ := created
    rw [creation?_createArgs] at creation
    exact ⟨_, a, events, prep, rfl, (Option.some.inj creation).symm⟩

/-- An attempt that has chosen a port goes on to create a container. -/
lemma Course.creates (course : Course s service o g failed σ t)
    (chosen : t.outcome.port = some port) :
    ∃ e ∈ t.events, ∃ id a, a.port = some port ∧
      creation? e = some ((createArgs s o g id a).drop 1) := by
  cases course with
  | unwritten | unprepared => cases chosen
  | @refused a | @started a | @nameless a | @removed a =>
    exact ⟨_, List.mem_append_right _ List.mem_cons_self, _, a, chosen, creation?_createArgs ..⟩

/-! ## What a preparation leaves -/

/-- The commands about a container that has been created. -/
def acting : List Text := ["start", "rm"]

/-- What a round asks after its attempt has been prepared: the creation of a container from what has
been allocated, its start and its removal. -/
inductive Following (s : Settings) (o : Order) (g : Groundwork)
    (allocated : Except Failure Allocation) : List Text → Prop where
  | creates {id : Text} {a : Allocation} : allocated = .ok a →
    Following s o g allocated (createArgs s o g id a)
  | acts {asked : List Text} : Commands acting asked → Following s o g allocated asked

/-- What follows an allocation asks for commands that act on containers. -/
lemma Following.commands {allocated : Except Failure Allocation}
    (h : Following s o g allocated args) : Commands ("create" :: acting) args := by
  cases h with
  | creates => exact Commands.mono (by decide) _ (Spec.toArgs_creates _)
  | acts asked => exact Commands.mono (by decide) _ asked

/-- A container that is created then is made from what has been allocated. -/
lemma Following.of_creation? {allocated : Except Failure Allocation}
    (asks : e.Asks binary (Following s o g allocated)) (creation : creation? e = some args) :
    ∃ id a, allocated = .ok a ∧ args = (createArgs s o g id a).drop 1 := by
  obtain ⟨asked, rfl, creates, follows⟩ := Creation.of_creation? asks creation
  cases follows with
  | creates eq => exact ⟨_, _, eq, rfl⟩
  | acts acts => exact absurd creates (Commands.not_of_not_mem (by decide) acts)

/-- An operation that asks for such commands leaves nothing else. -/
lemma follows {α : Type} {x : Run α} {names : List Text} (known : names ⊆ acting)
    (h : Composed (Commands names) x) :
    Leaves binary (fun events _ => ∀ e ∈ events, e.Asks binary (Commands acting)) x :=
  .ofAsks (h.asks.mono (Commands.mono known))

/-- A container is created by a call of its specification. -/
lemma create_follows (s : Settings) (o : Order) (g : Groundwork) (id : Text) (a : Allocation) :
    Leaves binary (fun events _ => ∀ e ∈ events, e.Asks binary (Following s o g (.ok a)))
      (create (specOf s o g id a)) := by
  refine (Leaves.create _).mono ?_
  rintro _ _ ⟨made, rfl, -⟩ e mem
  cases List.mem_singleton.mp mem
  exact ⟨_, rfl, .creates rfl⟩

/-- What an attempt leaves is what its preparation leaves, followed by commands about the container
that it creates; its port is the one that was allocated. -/
lemma attemptOnce_leaves (prepared : Leaves binary T (prepareAttempt s service o failed)) :
    Leaves binary (fun events r => ∃ outcome allocated before after, r = .ok outcome ∧
      events = before ++ after ∧ T before allocated ∧
      outcome.port = allocated.toOption.bind Allocation.port ∧
      ∀ e ∈ after, e.Asks binary (Following s o g allocated))
      (attemptOnce s service o g failed) := by
  unfold attemptOnce
  refine .newId_bind fun id => ?_
  refine .bind_attempt prepared fun before allocated left => ?_
  rcases allocated with e | a
  · exact .pure ⟨_, _, before, [], rfl, by simp, left, rfl, nofun⟩
  refine .bind_attempt (create_follows s o g id a) fun made r creates => ?_
  rcases r with e | container
  · exact .pure ⟨_, _, before, made, rfl, by simp, left, rfl, creates⟩
  refine .bind_attempt (follows (by decide) (start_composed container)) fun began r starts => ?_
  rcases r with e | _ <;>
    exact .pure ⟨_, _, before, made ++ began, rfl, by simp, left, rfl,
      List.forall_mem_append.mpr ⟨creates, fun e mem => (starts e mem).mono fun _ => .acts⟩⟩

/-- A container is removed by commands that act on containers, and the removal has an outcome. -/
lemma cleanUp_leaves (container : Option Text) :
    Leaves binary (fun events r => (∀ e ∈ events, e.Asks binary (Commands acting)) ∧
      ∃ removal, r = .ok removal) (cleanUp container) := by
  unfold cleanUp
  split
  · split
    · exact .pure ⟨nofun, _, rfl⟩
    · refine (Leaves.attempt (follows (by decide) (remove_composed _ true true))).mono ?_
      rintro _ _ ⟨removal, eq, asks⟩
      exact ⟨asks, removal, eq⟩
  · exact .pure ⟨nofun, _, rfl⟩

/-- What the preparation of an attempt leaves is followed by what acts on the container. -/
lemma runRound_leaves (prepared : Leaves binary T (prepareAttempt s service o failed)) :
    Leaves binary (fun events r => ∃ outcome removal allocated before after,
      r = .ok (outcome, removal) ∧ events = before ++ after ∧ T before allocated ∧
      outcome.port = allocated.toOption.bind Allocation.port ∧
      ∀ e ∈ after, e.Asks binary (Following s o g allocated)) (runRound s service o g failed) := by
  unfold runRound
  refine .bind (attemptOnce_leaves prepared) ?_ ?_
  · rintro _ _ ⟨_, _, _, _, eq, -⟩
    cases eq
  rintro _ outcome ⟨_, allocated, before, after, eq, rfl, left, port, asks⟩
  cases eq
  split
  · exact .pure ⟨_, _, allocated, before, after, rfl, by simp, left, port, asks⟩
  · refine .bind (cleanUp_leaves outcome.container) ?_ ?_
    · rintro _ _ ⟨-, _, eq⟩
      cases eq
    rintro more removal ⟨removes, -⟩
    exact .pure ⟨_, _, allocated, before, after ++ more, rfl, by simp, left, port,
      List.forall_mem_append.mpr ⟨asks, fun e mem => (removes e mem).mono fun _ => .acts⟩⟩

/-- What the preparation of an attempt leaves begins the events of its round. -/
lemma Round.Made.prepared (made : t.Made s service o g failed σ σ')
    (leaves : Leaves σ.binary T (prepareAttempt s service o failed)) :
    ∃ allocated before after, t.events = before ++ after ∧ T before allocated ∧
      t.outcome.port = allocated.toOption.bind Allocation.port ∧
      ∀ e ∈ after, e.Asks σ.binary (Following s o g allocated) := by
  obtain ⟨events, -, log, _, _, allocated, before, after, ended, rfl, left, port, asks⟩ :=
    runRound_leaves (g := g) leaves σ rfl
  rw [made.ran] at ended log
  cases ended
  exact ⟨allocated, before, after, List.append_cancel_left (made.log.symm.trans log), left, port,
    asks⟩

/-! ## Rounds of a history -/

/-- The ports that a round has to avoid are those of the rounds before it, unless a port was asked
for. -/
lemma History.round (h : History s service o g retries failed σ rounds result σ') (k : Nat)
    (hk : k < rounds.length) : ∃ avoided τ τ', Round.Made s service o g avoided τ rounds[k] τ' ∧
      τ.binary = σ.binary ∧ (o.fixedPort = none → ∀ n, n ∈ avoided ↔
        n ∈ failed ∨ ∃ t ∈ rounds.take k, t.outcome.port = some n) := by
  induction h generalizing k with
  | @stop _ failed σ t σ' made _ =>
    obtain rfl : k = 0 := by simpa using hk
    exact ⟨failed, σ, σ', made, rfl, by simp⟩
  | @again _ failed σ t σ₁ rounds _ _ made _ _ ih =>
    cases k with
    | zero => exact ⟨failed, σ, σ₁, made, rfl, by simp⟩
    | succ k =>
      obtain ⟨avoided, τ, τ', later, binary, ports⟩ := ih k (Nat.lt_of_succ_lt_succ hk)
      refine ⟨avoided, τ, τ', later, binary.trans made.binary, fun free n => ?_⟩
      rw [ports free n, failedPorts, if_pos (by simp [free])]
      simp only [List.mem_append, Option.mem_toList, List.take_succ_cons, List.mem_cons,
        exists_eq_or_imp, or_assoc, or_left_comm]

/-! ## From the template to the attempts -/

/-- Whether the log of a creation is made up of what its groundwork asks and of attempts, with one
pause between one and the next. -/
structure Attempted (s : Settings) (service : Service) (r : Runner) (σ : Session)
    (laid : List Event) (attempts : List (List Event)) : Prop where
  log : (createRunner s service r σ).2.log = σ.log ++ (laid ++ [.pause].intercalate attempts)
  laid : ∀ e ∈ laid, e.Asks σ.binary (Commands preparing)
  unbroken : ∀ events ∈ attempts, .pause ∉ events

/-- The attempts of a creation are the rounds of its history, none when the template is refused or
the groundwork fails. -/
lemma createRunner_attempted (s : Settings) (service : Service) (r : Runner) (σ : Session) :
    ∃ laid rounds, Attempted s service r σ laid (rounds.map Round.events) ∧
      (rounds = [] ∨ ∃ o g σ₁, Order.ofTemplate service r = .ok o ∧ g.Fits service ∧
        σ₁.binary = σ.binary ∧ History s service o g (s.maxAttempts - 1).toNat [] σ₁ rounds
          (createRunner s service r σ).1 (createRunner s service r σ).2) := by
  rcases order : Order.ofTemplate service r with e | o
  · rw [createRunner_refused order]
    exact ⟨[], [], ⟨by simp [createRunner_refused order], nofun, nofun⟩, .inl rfl⟩
  obtain ⟨laid, grew⟩ := layGroundwork_asks s service o σ
  rcases ground : layGroundwork s service o σ with ⟨e | g, σ₁⟩
  · rw [ground] at grew
    refine ⟨laid, [], ⟨?_, grew.asks, nofun⟩, .inl rfl⟩
    rw [createRunner_ungrounded order ground, grew.log]
    simp
  · rw [ground] at grew
    have fits : g.Fits service := layGroundwork_yields s service o σ g (by rw [ground])
    obtain ⟨rounds, history⟩ := exists_history s service o g (s.maxAttempts - 1).toNat [] σ₁
    rw [← createRunner_attempts order ground] at history
    refine ⟨laid, rounds, ⟨?_, grew.asks, ?_⟩, .inr ⟨o, g, σ₁, rfl, fits, grew.binary, history⟩⟩
    · rw [history.log, grew.log, List.append_assoc]
      rfl
    · intro events mem
      obtain ⟨t, made, rfl⟩ := List.mem_map.mp mem
      exact history.forall_rounds (fun _ course => course.no_pause) t made

end ProxyFleet.Creation
