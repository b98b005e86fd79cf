import ProxyFleet.Proofs.Creation.Round

/-!
# The history of a creation

The rounds of a creation in order, each beginning where the one before it paused. Which round is
followed by another one is decided by the round alone, as long as retries are left, and the last
round decides how the creation ends.
-/

namespace ProxyFleet.Creation
open Docker

/-- What a creation ends with when the round is its last. -/
def Round.verdict (service : Service) (t : Round) : Except Failure Runner :=
  match t.outcome.result, t.removal with
  | .ok r, _ => .ok r
  | .error e, .ok _ => .error (finalFailure service t.outcome.port t.outcome.container e)
  | .error e, .error c =>
    .error (.combined (finalFailure service t.outcome.port t.outcome.container e)
      [.repository c false none])

/-- Whether a round failed by a collision that a further one may avoid, with no container left
behind; `port` is the port that was asked for. -/
def Round.Repeats (service : Service) (port : Option Int) (t : Round) : Prop :=
  ∃ args status err out, t.outcome.result = .error (.command args status err out) ∧
    (∃ marker ∈ Failure.collisionMarkers, Text.occursIn marker (Text.lower err)) ∧
    ¬ (service = .relay ∧ port.isSome ∧ Text.occursIn Failure.portMarker (Text.lower err)) ∧
    t.removal = .ok ()

variable {s : Settings} {service : Service} {o : Order} {g : Groundwork} {failed : List Int}

/-- Retrying is worth it for the collisions that the daemon names, but for a port that was asked
for. -/
lemma isRetryable_iff {e : Failure} :
    isRetryable service o e = true ↔ ∃ args status err out, e = .command args status err out ∧
      (∃ marker ∈ Failure.collisionMarkers, Text.occursIn marker (Text.lower err)) ∧
      ¬ (service = .relay ∧ o.fixedPort.isSome ∧
        Text.occursIn Failure.portMarker (Text.lower err)) := by
  cases e
  case command args status err out =>
    have found : (Failure.command args status err out).isCollision = true ↔
        ∃ marker ∈ Failure.collisionMarkers, Text.occursIn marker (Text.lower err) :=
      List.any_eq_true
    unfold isRetryable Failure.isPortCollision
    by_cases fixed : service = .relay ∧ o.fixedPort.isSome ∧
        Text.occursIn Failure.portMarker (Text.lower err)
    · rw [if_pos fixed]
      refine ⟨nofun, ?_⟩
      rintro ⟨_, _, _, _, eq, -, free⟩
      cases eq
      exact absurd fixed free
    · rw [if_neg fixed, found]
      refine ⟨fun collides => ⟨_, _, _, _, rfl, collides, fixed⟩, ?_⟩
      rintro ⟨_, _, _, _, eq, collides, -⟩
      cases eq
      exact collides
  all_goals simp [isRetryable, Failure.isCollision, Failure.isPortCollision]

/-- A failed round is followed by another one if the failure is worth it and nothing is left
behind. -/
lemma Round.repeats_iff {t : Round} {e : Failure} (h : t.outcome.result = .error e) :
    t.Repeats service o.fixedPort ↔ isRetryable service o e = true ∧ t.removal = .ok () := by
  rw [isRetryable_iff]
  constructor
  · rintro ⟨args, status, err, out, eq, found, free, gone⟩
    cases h.symm.trans eq
    exact ⟨⟨_, _, _, _, rfl, found, free⟩, gone⟩
  · rintro ⟨⟨args, status, err, out, rfl, found, free⟩, gone⟩
    exact ⟨_, _, _, _, h, found, free, gone⟩

/-- The parts of a round: the attempt and what is done about its container. -/
lemma Round.Made.parts {σ σ' : Session} {t : Round} (made : t.Made s service o g failed σ σ') :
    ∃ mid, attemptOnce s service o g failed σ = (.ok t.outcome, mid) ∧
      ((∃ r, t.outcome.result = .ok r ∧ t.removal = .ok () ∧ mid = σ') ∨
        ∃ e, t.outcome.result = .error e ∧
          cleanUp t.outcome.container mid = (.ok t.removal, σ')) := by
  have ran := made.ran
  unfold runRound at ran
  rw [run_bind] at ran
  rcases attempted : attemptOnce s service o g failed σ with ⟨_ | outcome, mid⟩
  · rw [attempted] at ran
    cases ran
  · rw [attempted] at ran
    rcases ended : outcome.result with e | r
    · simp only [ended, run_bind] at ran
      rcases cleaned : cleanUp outcome.container mid with ⟨_ | removal, σ₁⟩
      · rw [cleaned] at ran
        cases ran
      · rw [cleaned] at ran
        obtain ⟨⟨rfl, rfl⟩, rfl⟩ := ran
        exact ⟨mid, rfl, .inr ⟨e, ended, cleaned⟩⟩
    · simp only [ended, run_pure] at ran
      obtain ⟨eq, rfl⟩ := Prod.mk.inj ran
      obtain ⟨rfl, gone⟩ := Prod.mk.inj (Except.ok.inj eq)
      exact ⟨mid, rfl, .inl ⟨r, ended, gone.symm, rfl⟩⟩

/-- Attempts stop with a round that is not repeated, or after the last one. -/
lemma makeAttempts_stop {retries : Nat} {σ σ' : Session} {t : Round}
    (made : t.Made s service o g failed σ σ')
    (stop : retries = 0 ∨ ¬ t.Repeats service o.fixedPort) :
    makeAttempts s service o g retries failed σ = (t.verdict service, σ') := by
  obtain ⟨mid, attempted, ⟨r, ended, gone, rfl⟩ | ⟨e, ended, cleaned⟩⟩ := made.parts
  · unfold makeAttempts
    simp only [run_bind, attempted, ended, Round.verdict, run_pure]
  · unfold makeAttempts
    simp only [run_bind, attempted, ended, cleaned, Round.verdict]
    rw [Round.repeats_iff ended] at stop
    rcases removed : t.removal with c | gone
    · rfl
    · cases retries with
      | zero => rfl
      | succ retries =>
        have terminal : isRetryable service o e = false := by
          simpa [removed] using stop
        simp only [terminal, Bool.false_eq_true, if_false, run_throw]

/-- A creation goes on after a round that is followed by another one. -/
lemma makeAttempts_again {retries : Nat} {σ σ' : Session} {t : Round}
    (made : t.Made s service o g failed σ σ') (again : t.Repeats service o.fixedPort) :
    makeAttempts s service o g (retries + 1) failed σ =
      makeAttempts s service o g retries (failedPorts o t.outcome.port failed) σ'.paused := by
  obtain ⟨mid, attempted, ⟨r, ended, -, -⟩ | ⟨e, ended, cleaned⟩⟩ := made.parts
  · obtain ⟨_, _, _, _, failure, -⟩ := again
    cases ended.symm.trans failure
  · obtain ⟨retryable, gone⟩ := (Round.repeats_iff ended).mp again
    rw [gone] at cleaned
    rw [makeAttempts]
    simp only [run_bind, attempted, ended, cleaned, retryable, if_true, run_pause]

/-- The rounds that a creation makes from a session on, the number of retries being given, and what
it ends with. -/
inductive History (s : Settings) (service : Service) (o : Order) (g : Groundwork) :
    Nat → List Int → Session → List Round → Except Failure Runner → Session → Prop where
  | stop {retries failed σ t σ'} :
    Round.Made s service o g failed σ t σ' →
    retries = 0 ∨ ¬ t.Repeats service o.fixedPort →
    History s service o g retries failed σ [t] (t.verdict service) σ'
  | again {retries failed σ t σ₁ rounds result σ'} :
    Round.Made s service o g failed σ t σ₁ →
    t.Repeats service o.fixedPort →
    History s service o g retries (failedPorts o t.outcome.port failed) σ₁.paused rounds result σ' →
    History s service o g (retries + 1) failed σ (t :: rounds) result σ'

/-- Whatever a creation comes to, there is a history of its rounds. -/
lemma exists_history (s : Settings) (service : Service) (o : Order) (g : Groundwork) (retries : Nat)
    (failed : List Int) (σ : Session) :
    ∃ rounds, History s service o g retries failed σ rounds
      (makeAttempts s service o g retries failed σ).1
      (makeAttempts s service o g retries failed σ).2 := by
  -- the retries that are left carry the recursion; the session is wherever the last round ended
  induction retries generalizing failed σ with
  | zero =>
    obtain ⟨t, σ', made⟩ := Round.exists_made s service o g failed σ
    rw [makeAttempts_stop made (.inl rfl)]
    exact ⟨[t], .stop made (.inl rfl)⟩
  | succ retries ih =>
    obtain ⟨t, σ', made⟩ := Round.exists_made s service o g failed σ
    by_cases again : t.Repeats service o.fixedPort
    · rw [makeAttempts_again made again]
      obtain ⟨rounds, h⟩ := ih (failedPorts o t.outcome.port failed) σ'.paused
      exact ⟨t :: rounds, .again made again h⟩
    · rw [makeAttempts_stop made (.inr again)]
      exact ⟨[t], .stop made (.inr again)⟩

/-- What the rounds of a creation ask, with a pause between one round and the next. -/
def eventsOf (rounds : List Round) : List Event :=
  [.pause].intercalate (rounds.map Round.events)

/-- Between a first round and further ones there is a pause. -/
lemma eventsOf_cons {t : Round} {rounds : List Round} (h : rounds ≠ []) :
    eventsOf (t :: rounds) = t.events ++ .pause :: eventsOf rounds := by
  obtain ⟨next, rest, rfl⟩ := List.exists_cons_of_ne_nil h
  simp [eventsOf, List.intercalate]

namespace History

variable {retries : Nat} {rounds : List Round} {result : Except Failure Runner} {σ σ' : Session}

/-- There is at least one round. -/
lemma ne_nil (h : History s service o g retries failed σ rounds result σ') : rounds ≠ [] := by
  cases h <;> exact List.cons_ne_nil _ _

/-- Every round takes one identifier. -/
lemma issued (h : History s service o g retries failed σ rounds result σ') :
    σ'.issued = σ.issued + rounds.length := by
  induction h with
  | stop made _ => exact made.issued
  | @again _ _ _ _ σ₁ _ _ _ made _ _ ih =>
    have first : σ₁.paused.issued = _ := made.issued
    rw [ih, first, List.length_cons]
    omega

/-- What is logged is the events of the rounds with the pauses between them. -/
lemma log (h : History s service o g retries failed σ rounds result σ') :
    σ'.log = σ.log ++ eventsOf rounds := by
  induction h with
  | stop made _ => rw [made.log]; simp [eventsOf, List.intercalate]
  | again made _ rest ih =>
    rw [ih, eventsOf_cons rest.ne_nil]
    simp [Session.paused, made.log]

/-- What holds of every course of a round holds of all rounds of a history. -/
lemma forall_rounds {P : Round → Prop}
    (h : History s service o g retries failed σ rounds result σ')
    (each : ∀ {failed σ₁ t}, σ₁.binary = σ.binary → Course s service o g failed σ₁ t → P t) :
    ∀ t ∈ rounds, P t := by
  induction h with
  | stop made _ =>
    intro t mem
    cases List.mem_singleton.mp mem
    exact each rfl made.course
  | @again _ _ _ _ σ₁ _ _ _ made _ _ ih =>
    have binary : σ₁.paused.binary = _ := made.binary
    intro t mem
    rcases List.mem_cons.mp mem with rfl | mem
    · exact each rfl made.course
    · exact ih (fun eq => each (eq.trans binary)) t mem

end History

/-! ## From the template to the attempts -/

variable {r : Runner} {σ σ₁ : Session}

/-- The fixed port of a relay is that of its template. -/
lemma fixedPort_of_relay (h : Order.ofTemplate .relay r = .ok o) : o.fixedPort = r.socketPort := by
  obtain ⟨models, -, h⟩ := bind_eq_ok.mp h
  obtain ⟨identity, -, h⟩ := bind_eq_ok.mp h
  obtain ⟨_, -, h⟩ := bind_eq_ok.mp h
  obtain ⟨provider, -, h⟩ := bind_eq_ok.mp h
  obtain ⟨_, -, h⟩ := bind_eq_ok.mp h
  obtain ⟨listener, -, h⟩ := bind_eq_ok.mp h
  obtain ⟨_, -, h⟩ := bind_eq_ok.mp h
  cases h
  rfl

/-- A template that is no order is refused before docker is asked for anything. -/
lemma createRunner_refused {e : Failure} (h : Order.ofTemplate service r = .error e) :
    createRunner s service r σ = (.error e, σ) := by
  simp only [createRunner, run_bind, h, run_lift]

/-- A creation without groundwork ends with the failure of laying it. -/
lemma createRunner_ungrounded {e : Failure} (h : Order.ofTemplate service r = .ok o)
    (h' : layGroundwork s service o σ = (.error e, σ₁)) :
    createRunner s service r σ = (.error e.wrap, σ₁) := by
  simp only [createRunner, run_bind, h, h', run_lift, run_attempt, wrapFailure]

/-- A creation with groundwork ends as its attempts do. -/
lemma createRunner_attempts (h : Order.ofTemplate service r = .ok o)
    (h' : layGroundwork s service o σ = (.ok g, σ₁)) :
    createRunner s service r σ = makeAttempts s service o g (s.maxAttempts - 1).toNat [] σ₁ := by
  simp only [createRunner, run_bind, h, h', run_lift, run_attempt, wrapFailure]

/-- What is asked for the groundwork stays at the front of the log. -/
lemma createRunner_extends (h : Order.ofTemplate service r = .ok o) :
    ∃ more, (createRunner s service r σ).2.log = (layGroundwork s service o σ).2.log ++ more := by
  rcases ground : layGroundwork s service o σ with ⟨e | g, σ₁⟩
  · rw [createRunner_ungrounded h ground]
    exact ⟨[], (List.append_nil _).symm⟩
  · rw [createRunner_attempts h ground]
    obtain ⟨rounds, history⟩ := exists_history s service o g (s.maxAttempts - 1).toNat [] σ₁
    exact ⟨_, history.log⟩

end ProxyFleet.Creation
