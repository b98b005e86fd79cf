import ProxyFleet.Proofs.Creation.Preparation

/-!
# Rounds

A round is one attempt of a creation together with the removal of the container that it made in
vain. `Course` lists everything that a round can come to, with all that is asked of docker
meanwhile; statements about creations are proved from it and look no further into an attempt.
-/

namespace ProxyFleet.Creation
open Docker

/-- One attempt: how it ended, how the removal of the container it had made ended, and what was
asked of docker meanwhile. -/
structure Round where
  outcome : Outcome
  removal : Except Failure Unit
  events : List Event

/-- An attempt and, when it failed, the removal of the container that it had made. -/
def runRound (s : Settings) (service : Service) (o : Order) (g : Groundwork) (failed : List Int) :
    Run (Outcome × Except Failure Unit) := do
  let outcome ← attemptOnce s service o g failed
  match outcome.result with
  | .ok _ => return (outcome, .ok ())
  | .error _ => return (outcome, ← cleanUp outcome.container)

section

variable (s : Settings) (service : Service) (o : Order) (g : Groundwork) (failed : List Int)

/-- The arguments that create the container of an allocation. -/
def createArgs (id : Text) (a : Allocation) : List Text := (specOf s o g id a).toArgs

/-- The arguments that create a container begin with the command for it. -/
lemma createArgs_cons (id : Text) (a : Allocation) :
    createArgs s o g id a = ("create" : Text) :: (createArgs s o g id a).drop 1 := by
  obtain ⟨rest, eq⟩ := (specOf s o g id a).exists_toArgs
  rw [createArgs, eq]
  rfl

/-- What a round from a session on can come to. -/
inductive Course (σ : Session) : Round → Prop where
  /-- The labels that name the owners could not be written, so that nothing was asked. -/
  | unwritten : ¬ o.Writable → Course σ ⟨⟨none, none, .error .badNumeral⟩, .ok (), []⟩
  /-- The preparation failed. -/
  | unprepared {e events} :
    Preparation s service o failed σ.numbered (.error e) events →
    Course σ ⟨⟨none, none, .error e⟩, .ok (), events⟩
  /-- No container was made. -/
  | refused {a e events made} :
    Preparation s service o failed σ.numbered (.ok a) events →
    made.result (createArgs s o g σ.nextId a) = .error e →
    Course σ ⟨⟨a.port, none, .error e⟩, .ok (),
      events ++ [.call (σ.binary :: createArgs s o g σ.nextId a) made]⟩
  /-- The container was started. -/
  | started {a out ready events made began} :
    Preparation s service o failed σ.numbered (.ok a) events →
    made.result (createArgs s o g σ.nextId a) = .ok out →
    began.result (startArgs (Text.strip out)) = .ok ready →
    Course σ ⟨⟨a.port, some (Text.strip out),
        .ok (runnerOf s service o σ.nextId (Text.strip out) a)⟩, .ok (),
      events ++ [.call (σ.binary :: createArgs s o g σ.nextId a) made,
        .call (σ.binary :: startArgs (Text.strip out)) began]⟩
  /-- The container did not start, and its name is not known. -/
  | nameless {a out e events made began} :
    Preparation s service o failed σ.numbered (.ok a) events →
    made.result (createArgs s o g σ.nextId a) = .ok out →
    Text.strip out = [] →
    began.result (startArgs (Text.strip out)) = .error e →
    Course σ ⟨⟨a.port, some (Text.strip out), .error e⟩, .ok (),
      events ++ [.call (σ.binary :: createArgs s o g σ.nextId a) made,
        .call (σ.binary :: startArgs (Text.strip out)) began]⟩
  /-- The container did not start and was removed again, or its removal failed. -/
  | removed {a out e removal events made began undone} :
    Preparation s service o failed σ.numbered (.ok a) events →
    made.result (createArgs s o g σ.nextId a) = .ok out →
    Text.strip out ≠ [] →
    began.result (startArgs (Text.strip out)) = .error e →
    (∀ c, removal = .error c ↔
      undone.result (removeArgs (Text.strip out) true true) = .error c ∧ saysGone c = false) →
    Course σ ⟨⟨a.port, some (Text.strip out), .error e⟩, removal,
      events ++ [.call (σ.binary :: createArgs s o g σ.nextId a) made,
        .call (σ.binary :: startArgs (Text.strip out)) began,
        .call (σ.binary :: removeArgs (Text.strip out) true true) undone]⟩

/-- Whether a round is what the creation does next in a session and leaves another session
behind. -/
structure Round.Made (σ : Session) (t : Round) (σ' : Session) : Prop where
  ran : runRound s service o g failed σ = (.ok (t.outcome, t.removal), σ')
  binary : σ'.binary = σ.binary
  issued : σ'.issued = σ.issued + 1
  log : σ'.log = σ.log ++ t.events
  course : Course s service o g failed σ t

end

variable {s : Settings} {service : Service} {o : Order} {g : Groundwork} {failed : List Int}

/-- A session that grew from one with one more identifier given out. -/
lemma Round.Made.ofGrew {P : List Text → Prop} {σ σ' : Session} {t : Round}
    (ran : runRound s service o g failed σ = (.ok (t.outcome, t.removal), σ'))
    (grew : σ.numbered.Grew P t.events σ') (course : Course s service o g failed σ t) :
    t.Made s service o g failed σ σ' :=
  ⟨ran, grew.binary, grew.issued, grew.log, course⟩

/-- A container without an identifier is not removed. -/
lemma cleanUp_nameless {id : Text} (h : id = []) : cleanUp (some id) = pure (.ok ()) := by
  rw [h]
  rfl

/-- A container with an identifier is removed by force, with its volumes. -/
lemma cleanUp_named {id : Text} (h : id ≠ []) :
    cleanUp (some id) = attempt (remove id true true) := by
  simp [cleanUp, h]

/-- In every session a creation makes a round. -/
lemma Round.exists_made (s : Settings) (service : Service) (o : Order) (g : Groundwork)
    (failed : List Int) (σ : Session) : ∃ t σ', Round.Made s service o g failed σ t σ' := by
  have widen : ∀ (P : List Text → Prop) args, P args → True := fun _ _ _ => trivial
  by_cases writable : o.Writable
  case neg =>
    refine ⟨⟨⟨none, none, .error .badNumeral⟩, .ok (), []⟩, σ.numbered, .ofGrew (P := fun _ => True)
      ?_ (.refl _) (.unwritten writable)⟩
    simp only [runRound, attemptOnce, run_bind, run_newId, run_attempt, run_pure,
      prepareAttempt_unwritten service writable, cleanUp]
  obtain ⟨reply, rest, grew⟩ := prepareAttempt_begins service writable failed σ.numbered
  have prep : Preparation s service o failed σ.numbered _ _ :=
    ⟨writable, rfl, ⟨reply, rest, rfl⟩, grew.asks⟩
  rcases prepared : prepareAttempt s service o failed σ.numbered with ⟨e | a, σ₁⟩
  · rw [prepared] at prep grew
    refine ⟨⟨⟨none, none, .error e⟩, .ok (), _⟩, σ₁, .ofGrew ?_ grew (.unprepared prep)⟩
    simp only [runRound, attemptOnce, run_bind, run_newId, run_attempt, run_pure, prepared, cleanUp]
  rw [prepared] at prep grew
  -- the container is created
  obtain ⟨made, eq₁, grew₁⟩ := create_grew (specOf s o g σ.nextId a) σ₁
  rw [grew.binary] at grew₁
  have grew₁ := (grew.mono (widen _)).trans (grew₁.mono (widen _))
  rcases created : create (specOf s o g σ.nextId a) σ₁ with ⟨e | container, σ₂⟩
  · rw [created] at eq₁ grew₁
    have refused := map_eq_error.mp eq₁.symm
    refine ⟨⟨⟨a.port, none, .error e⟩, .ok (), _⟩, σ₂, .ofGrew ?_ grew₁ (.refused prep refused)⟩
    simp only [runRound, attemptOnce, run_bind, run_newId, run_attempt, run_pure, prepared, created,
      cleanUp]
  rw [created] at eq₁ grew₁
  obtain ⟨out, accepted, rfl⟩ := map_eq_ok.mp eq₁.symm
  -- and started, under whatever name the output gave
  obtain ⟨began, eq₂, grew₂⟩ := start_grew (Text.strip out) σ₂
  rw [grew₁.binary] at grew₂
  have grew₂ := grew₁.trans (grew₂.mono (widen _))
  rw [List.append_assoc] at grew₂
  rcases begun : start (Text.strip out) σ₂ with ⟨e | ready, σ₃⟩
  · rw [begun] at eq₂ grew₂
    have unstarted := map_eq_error.mp eq₂.symm
    by_cases nameless : Text.strip out = []
    · refine ⟨⟨⟨a.port, some (Text.strip out), .error e⟩, .ok (), _⟩, σ₃,
        .ofGrew ?_ grew₂ (.nameless prep accepted nameless unstarted)⟩
      simp only [runRound, attemptOnce, run_bind, run_newId, run_attempt, run_pure, prepared,
        created, begun, cleanUp_nameless nameless]
    · obtain ⟨undone, failure, grew₃⟩ := remove_grew (Text.strip out) true true σ₃
      rw [grew₂.binary] at grew₃
      have grew₃ := grew₂.trans (grew₃.mono (widen _))
      rw [List.append_assoc] at grew₃
      refine ⟨⟨⟨a.port, some (Text.strip out), .error e⟩, _, _⟩, _,
        .ofGrew ?_ grew₃ (.removed prep accepted nameless unstarted failure)⟩
      simp only [runRound, attemptOnce, run_bind, run_newId, run_attempt, run_pure, prepared,
        created, begun, cleanUp_named nameless]
  · rw [begun] at eq₂ grew₂
    obtain ⟨_, ready, -⟩ := map_eq_ok.mp eq₂.symm
    refine ⟨⟨⟨a.port, some (Text.strip out), .ok _⟩, .ok (), _⟩, σ₃,
      .ofGrew ?_ grew₂ (.started prep accepted ready)⟩
    simp only [runRound, attemptOnce, run_bind, run_newId, run_attempt, run_pure, prepared, created,
      begun]

end ProxyFleet.Creation
