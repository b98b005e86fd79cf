import ProxyFleet.Proofs.Docker.Commands

/-!
# What operations leave behind

`Leaves` relates the events that an operation adds to the log of its session to what it comes to.
`Listed` is all that a listing can leave: its query and, when that has named containers, their
inspection.
-/

namespace ProxyFleet.Docker

variable {α β : Type} {binary : Text} {P : List Text → Prop}
  {T T' : List Event → Except Failure α → Prop} {U : List Event → Except Failure β → Prop}

/-- Whether an operation leaves events and an outcome that are related, in every session with the
given binary. -/
def Leaves (binary : Text) (T : List Event → Except Failure α → Prop) (x : Run α) : Prop :=
  ∀ σ : Session, σ.binary = binary → ∃ events, (x σ).2.binary = binary ∧
    (x σ).2.log = σ.log ++ events ∧ T events (x σ).1

namespace Leaves

/-- What an operation leaves may be described by a weaker relation. -/
lemma mono {x : Run α} (h : ∀ events r, T events r → T' events r) (hx : Leaves binary T x) :
    Leaves binary T' x := by
  intro σ eq
  obtain ⟨events, same, log, left⟩ := hx σ eq
  exact ⟨events, same, log, h _ _ left⟩

/-- An outcome that is there leaves no events. -/
lemma lift {x : Except Failure α} (h : T [] x) : Leaves binary T (liftM x : Run α) :=
  fun σ eq => ⟨[], eq, by simp, h⟩

/-- A result that is there leaves no events. -/
lemma pure {a : α} (h : T [] (.ok a)) : Leaves binary T (Pure.pure a : Run α) := lift h

/-- A failure that is there leaves no events. -/
lemma throw {e : Failure} (h : T [] (.error e)) :
    Leaves binary T (MonadExcept.throw e : Run α) := lift h

/-- Whatever an operation leaves, it leaves together. -/
lemma and {x : Run α} (h : Leaves binary T x) (h' : Leaves binary T' x) :
    Leaves binary (fun events r => T events r ∧ T' events r) x := by
  intro σ eq
  obtain ⟨events, same, log, left⟩ := h σ eq
  obtain ⟨events', -, log', left'⟩ := h' σ eq
  cases List.append_cancel_left (log.symm.trans log')
  exact ⟨events, same, log, left, left'⟩

/-- An operation leaves what it adds to its session. -/
lemma ofGrew {x : Run α} (h : ∀ σ : Session, σ.binary = binary → ∃ P events,
    σ.Grew P events (x σ).2 ∧ T events (x σ).1) : Leaves binary T x := by
  intro σ eq
  obtain ⟨P, events, grew, left⟩ := h σ eq
  exact ⟨events, grew.binary.trans eq, grew.log, left⟩

/-- An operation leaves nothing but the calls that it asks for. -/
lemma ofAsks {x : Run α} (h : Asks P x) :
    Leaves binary (fun events _ => ∀ e ∈ events, e.Asks binary P) x := by
  refine .ofGrew fun σ eq => ?_
  obtain ⟨events, grew⟩ := h σ
  exact ⟨P, events, grew, eq ▸ grew.asks⟩

/-- A sequence leaves the events of its first part, and those of the second if the first comes to a
result. -/
lemma bind {x : Run α} {f : α → Run β} (hx : Leaves binary T x)
    (stop : ∀ events e, T events (.error e) → U events (.error e))
    (go : ∀ events a, T events (.ok a) → Leaves binary (fun more => U (events ++ more)) (f a)) :
    Leaves binary U (x >>= f) := by
  intro σ eq
  obtain ⟨events, same, log, left⟩ := hx σ eq
  rw [run_bind]
  rcases ran : x σ with ⟨e | a, σ₁⟩
  · rw [ran] at same log left
    exact ⟨events, same, log, stop events e left⟩
  · rw [ran] at same log left
    obtain ⟨more, same', log', left'⟩ := go events a left σ₁ same
    refine ⟨events ++ more, same', ?_, left'⟩
    rw [log', log, List.append_assoc]

/-- After a step that asks nothing, the operation leaves what it goes on to leave. -/
lemma lift_bind {x : Except Failure α} {f : α → Run β}
    (stop : ∀ e, x = .error e → U [] (.error e))
    (go : ∀ a, x = .ok a → Leaves binary U (f a)) : Leaves binary U ((liftM x : Run α) >>= f) := by
  cases x with
  | error e => exact throw (stop e rfl)
  | ok a => exact go a rfl

/-- An attempt leaves what the operation leaves, with its outcome for a result. -/
lemma attempt {x : Run α} (hx : Leaves binary T x) :
    Leaves binary (fun events r => ∃ outcome, r = .ok outcome ∧ T events outcome) (attempt x) := by
  intro σ eq
  obtain ⟨events, same, log, left⟩ := hx σ eq
  exact ⟨events, same, log, _, rfl, left⟩

/-- What an attempt comes to decides how it goes on. -/
lemma bind_attempt {x : Run α} {f : Except Failure α → Run β} (hx : Leaves binary T x)
    (go : ∀ events r, T events r → Leaves binary (fun more => U (events ++ more)) (f r)) :
    Leaves binary U (Docker.attempt x >>= f) := by
  refine .bind (.attempt hx) ?_ ?_
  · rintro events e ⟨_, ⟨⟩, _⟩
  · rintro events r ⟨_, eq, left⟩
    cases eq
    exact go events r left

/-- Taking an id leaves no events and cannot fail. -/
lemma newId : Leaves binary (fun events r => events = [] ∧ ∃ id, r = .ok id) newId :=
  fun σ eq => ⟨[], eq, by simp [Session.numbered], rfl, σ.nextId, rfl⟩

/-- Taking an identity asks nothing. -/
lemma newId_bind {f : Text → Run β} (go : ∀ id, Leaves binary U (f id)) :
    Leaves binary U (Docker.newId >>= f) := by
  refine .bind .newId ?_ ?_
  · rintro _ _ ⟨-, _, ⟨⟩⟩
  · rintro _ id ⟨rfl, -⟩
    exact go id

/-- A pause leaves itself and cannot fail. -/
lemma pause : Leaves binary (fun events r => events = [.pause] ∧ r = .ok ()) pause :=
  fun _ eq => ⟨[.pause], eq, rfl, rfl, rfl⟩

/-- A creation is one call, and its result is the answer without the spaces around it. -/
lemma create (spec : Spec) : Leaves binary (fun events r => ∃ made,
    events = [.call (binary :: spec.toArgs) made] ∧
      r = (made.result spec.toArgs).map Text.strip) (create spec) := by
  refine .ofGrew fun σ eq => ?_
  obtain ⟨made, result, grew⟩ := create_grew spec σ
  exact ⟨_, _, grew, made, by rw [eq], result⟩

/-- A start is one call. -/
lemma start (id : Text) : Leaves binary (fun events _ => ∃ began,
    events = [.call (binary :: startArgs id) began]) (start id) := by
  refine .ofGrew fun σ eq => ?_
  obtain ⟨began, -, grew⟩ := start_grew id σ
  exact ⟨_, _, grew, began, by rw [eq]⟩

/-- A removal is one call. -/
lemma remove (id : Text) (force volumes : Bool) : Leaves binary (fun events _ => ∃ undone,
    events = [.call (binary :: removeArgs id force volumes) undone]) (remove id force volumes) := by
  refine .ofGrew fun σ eq => ?_
  obtain ⟨undone, -, grew⟩ := remove_grew id force volumes σ
  exact ⟨_, _, grew, undone, by rw [eq]⟩

end Leaves

/-! ## Listings -/

/-- The arguments that inspect containers. -/
def inspectArgs (ids : List Text) : List Text := "inspect" :: "--type" :: "container" :: ids

/-- The containers that the answer to an inspection describes. -/
def described (ids : List Text) (reply : Reply) : Except Failure (List Container) :=
  (inspectionOutput (reply.result (inspectArgs ids))).bind readContainers

/-- What a listing with the given arguments can leave. -/
inductive Listed (binary : Text) (args : List Text) :
    List Event → Except Failure (List Container) → Prop where
  | failed {listed e} :
    listed.result args = .error e → Listed binary args [.call (binary :: args) listed] (.error e)
  | none {listed out} :
    listed.result args = .ok out → readIds out = [] →
    Listed binary args [.call (binary :: args) listed] (.ok [])
  | inspected {listed out shown} :
    listed.result args = .ok out → readIds out ≠ [] →
    Listed binary args
      [.call (binary :: args) listed, .call (binary :: inspectArgs (readIds out)) shown]
      (described (readIds out) shown)

/-- A listing asks for nothing but the listing and an inspection. -/
lemma Listed.asks {args : List Text} {events : List Event} {r : Except Failure (List Container)}
    (h : Listed binary args events r) :
    ∀ e ∈ events, e.Asks binary fun args' => args' = args ∨ Commands ["inspect"] args' := by
  have query : ∀ {reply}, (Event.call (binary :: args) reply).Asks binary
      fun args' => args' = args ∨ Commands ["inspect"] args' := ⟨args, rfl, .inl rfl⟩
  cases h with
  | failed | none =>
    intro e mem
    cases List.mem_singleton.mp mem
    exact query
  | inspected =>
    intro e mem
    rcases List.mem_cons.mp mem with rfl | mem
    · exact query
    · cases List.mem_singleton.mp mem
      exact ⟨_, rfl, .inr (.head _ _)⟩

/-- A call leaves itself, and comes to what its reply says. -/
lemma Leaves.run (args : List Text) : Leaves binary (fun events r => ∃ reply,
    events = [.call (binary :: args) reply] ∧ r = reply.result args) (run args) := by
  refine .ofGrew fun σ eq => ?_
  obtain ⟨reply, result, grew⟩ := run_run args σ
  exact ⟨_, _, grew, reply, by rw [eq], result⟩

/-- An inspection of some containers is one call, and comes to what the reply describes. -/
lemma Leaves.inspect {ids : List Text} (some : ids ≠ []) : Leaves binary (fun events r => ∃ shown,
    events = [.call (binary :: inspectArgs ids) shown] ∧ r = described ids shown)
    (inspect ids) := by
  unfold Docker.inspect
  rw [if_neg (by simpa using some)]
  refine .bind_attempt (.run (inspectArgs ids)) ?_
  rintro _ _ ⟨shown, rfl, rfl⟩
  refine .bind (T := fun events r => events = [] ∧ r = inspectionOutput _) (.lift ⟨rfl, rfl⟩) ?_ ?_
  · rintro _ e ⟨rfl, failed⟩
    refine ⟨shown, rfl, ?_⟩
    rw [described, ← failed]
    rfl
  · rintro _ out ⟨rfl, read⟩
    refine .lift ⟨shown, rfl, ?_⟩
    rw [described, ← read]
    rfl

/-- A query that can be written leaves its listing, and an inspection of what was found. -/
lemma Leaves.list {q : Query} {args : List Text} (h : q.toArgs = .ok args) :
    Leaves binary (Listed binary args) (list q) := by
  unfold Docker.list
  rw [h]
  show Leaves _ _ (Docker.run args >>= fun out => Docker.inspect (readIds out))
  refine .bind (.run args) ?_ ?_
  · rintro _ e ⟨listed, rfl, failed⟩
    exact .failed failed.symm
  · rintro _ out ⟨listed, rfl, read⟩
    by_cases none : readIds out = []
    · rw [none]
      exact .pure (.none read.symm none)
    · refine (Leaves.inspect none).mono ?_
      rintro _ _ ⟨shown, rfl, rfl⟩
      exact .inspected read.symm none

end ProxyFleet.Docker
