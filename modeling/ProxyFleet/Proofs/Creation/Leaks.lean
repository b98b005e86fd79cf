import ProxyFleet.Proofs.Creation.History

/-!
# No container is left behind

A container that docker has made for a creation is either the one whose runner the creation returns,
or it is removed again before anything else happens; when it cannot be removed, the creation ends at
once and says so.
-/

namespace ProxyFleet.Creation
open Docker

/-- Whether an event is the making of a container: a `create` command with the given arguments that
succeeds and prints the identifier. -/
def Makes (binary : Text) (args : List Text) (id : Text) : Event → Prop
  | .call argv reply =>
    argv = binary :: "create" :: args ∧ reply.status = 0 ∧ id ≠ [] ∧
      ∃ out, decode reply.out = .ok out ∧ Text.strip out = id
  | .pause => False

/-- The container is started as the last thing, and its runner is returned. -/
def Kept (binary id : Text) (after : List Event) (result : Except Failure Runner) : Prop :=
  (∃ began, after = [.call (binary :: startArgs id) began]) ∧
    ∃ r, result = .ok r ∧ r.serial = .str id

/-- The container does not start and is removed at once. When its removal fails, nothing else
happens and the result has both failures, the one of the attempt first. -/
def Discarded (s : Settings) (service : Service) (binary : Text) (args : List Text) (id : Text)
    (after : List Event) (result : Except Failure Runner) : Prop :=
  ∃ began undone rest,
    after = .call (binary :: startArgs id) began ::
      .call (binary :: ["rm", "--force", "--volumes", id]) undone :: rest ∧
    ∀ c, undone.result ["rm", "--force", "--volumes", id] = .error c → saysGone c = false →
      rest = [] ∧ ∃ o g runner a e,
        ("create" : Text) :: args = (specOf s o g runner a).toArgs ∧
        began.result (startArgs id) = .error e ∧
        result = .error (.combined (finalFailure service a.port (some id) e)
          [.repository c false none])

/-- Every container that is made in the course of events is kept or discarded. -/
def Accounted (s : Settings) (service : Service) (binary : Text) (events : List Event)
    (result : Except Failure Runner) : Prop :=
  ∀ e after args id, e :: after <:+ events → Makes binary args id e →
    Kept binary id after result ∨ Discarded s service binary args id after result

variable {s : Settings} {service : Service} {o : Order} {g : Groundwork} {failed : List Int}
  {binary : Text} {events rest : List Event} {result : Except Failure Runner}

/-- A call for other commands makes no container. -/
lemma not_makes_of_asks {names : List Text} {e : Event} (h : ("create" : Text) ∉ names)
    (asks : e.Asks binary (Commands names)) (args : List Text) (id : Text) :
    ¬ Makes binary args id e := by
  intro makes
  cases e with
  | pause => exact makes
  | call argv reply =>
    obtain ⟨eq, -⟩ := makes
    obtain ⟨args', eq', name, mem, head⟩ := asks
    cases eq.symm.trans eq'
    cases head
    exact h mem

namespace Accounted

/-- Nothing is to be accounted for when nothing has happened. -/
lemma nil : Accounted s service binary [] result := by
  intro e after args id suffix
  cases List.suffix_nil.mp suffix

/-- What is accounted for stays so behind an event whose container is kept or discarded. -/
lemma cons {e : Event} (first : ∀ args id, Makes binary args id e →
      Kept binary id rest result ∨ Discarded s service binary args id rest result)
    (h : Accounted s service binary rest result) :
    Accounted s service binary (e :: rest) result := by
  intro e' after args id suffix makes
  rcases List.suffix_cons_iff.mp suffix with eq | suffix
  · cases eq
    exact first args id makes
  · exact h e' after args id suffix makes

/-- Events that make nothing may come before. -/
lemma append (quiet : ∀ e ∈ events, ∀ args id, ¬ Makes binary args id e)
    (h : Accounted s service binary rest result) :
    Accounted s service binary (events ++ rest) result := by
  induction events with
  | nil => exact h
  | cons e more ih =>
    refine .cons (fun args id makes => ?_) (ih fun e' mem => quiet e' (List.mem_cons_of_mem _ mem))
    exact absurd makes (quiet e List.mem_cons_self args id)

end Accounted

/-- Preparing an attempt makes no container. -/
lemma Preparation.quiet {σ : Session} {outcome : Except Failure Allocation}
    (prep : Preparation s service o failed σ outcome events) :
    ∀ e ∈ events, ∀ args id, ¬ Makes σ.binary args id e :=
  fun e mem => not_makes_of_asks (by decide) (prep.asks e mem)

/-- A container that is made is the one whose identifier the output holds. -/
lemma Makes.output {args args' : List Text} {id : Text} {made : Reply}
    (makes : Makes binary args id (.call (binary :: args') made)) :
    ("create" : Text) :: args = args' ∧ id ≠ [] ∧
      ∃ out, made.result args' = .ok out ∧ Text.strip out = id := by
  obtain ⟨eq, status, named, out, decoded, stripped⟩ := makes
  cases eq
  exact ⟨rfl, named, out, Reply.result_eq_ok.mpr ⟨status, decoded⟩, stripped⟩

/-- What is made in a round is accounted for, when the round is the last one or is followed by
another. -/
lemma Course.accounted {σ : Session} {t : Round}
    (course : Course s service o g failed σ t)
    (follow : rest = [] ∧ result = t.verdict service ∨ t.Repeats service o.fixedPort)
    (h : Accounted s service σ.binary rest result) :
    Accounted s service σ.binary (t.events ++ rest) result := by
  have quiet : ∀ {args reply}, Commands ["start", "rm"] args → ∀ args' id,
      ¬ Makes σ.binary args' id (.call (σ.binary :: args) reply) :=
    fun asked => not_makes_of_asks (by decide) ⟨_, rfl, asked⟩
  have begins : ∀ id, Commands ["start", "rm"] (startArgs id) :=
    fun _ => ⟨_, List.mem_cons_self, rfl⟩
  have removes : ∀ id, Commands ["start", "rm"] (removeArgs id true true) :=
    fun _ => ⟨_, List.mem_cons_of_mem _ List.mem_cons_self, rfl⟩
  -- of a round's events only its one `create` can make a container
  cases course with
  | unwritten => exact h
  | unprepared prep => exact .append prep.quiet h
  | refused prep refused =>
    rw [List.append_assoc]
    refine .append prep.quiet (.cons (fun args id makes => ?_) h)
    obtain ⟨-, -, out, accepted, -⟩ := makes.output
    cases refused.symm.trans accepted
  | started prep accepted ready =>
    rw [List.append_assoc]
    obtain ⟨rfl, rfl⟩ | ⟨_, _, _, _, failure, -⟩ := follow
    · refine .append prep.quiet (.cons (fun args id makes => .inl ?_) ?_)
      · obtain ⟨-, -, out, accepted', rfl⟩ := makes.output
        cases accepted.symm.trans accepted'
        exact ⟨⟨_, rfl⟩, _, rfl, by cases service <;> rfl⟩
      · exact .cons (fun args id makes => absurd makes (quiet (begins _) args id)) h
    · cases failure
  | nameless prep accepted nameless _ =>
    rw [List.append_assoc]
    refine .append prep.quiet (.cons (fun args id makes => ?_) ?_)
    · obtain ⟨-, named, out, accepted', rfl⟩ := makes.output
      cases accepted.symm.trans accepted'
      exact absurd nameless named
    · exact .cons (fun args id makes => absurd makes (quiet (begins _) args id)) h
  | @removed a out e removal _ _ _ _ prep accepted named unstarted undone =>
    rw [List.append_assoc]
    refine .append prep.quiet (.cons (fun args id makes => .inr ?_) ?_)
    · obtain ⟨eq, -, out, accepted', rfl⟩ := makes.output
      cases accepted.symm.trans accepted'
      refine ⟨_, _, rest, rfl, fun c failure present => ?_⟩
      -- a round whose removal failed is never followed by another one
      have stuck : removal = .error c := (undone c).mpr ⟨failure, present⟩
      obtain ⟨rfl, rfl⟩ | ⟨_, _, _, _, -, -, -, gone⟩ := follow
      · refine ⟨rfl, o, g, _, a, e, eq, unstarted, ?_⟩
        simp only [Round.verdict, stuck]
      · cases stuck.symm.trans gone
    · exact .cons (fun args id makes => absurd makes (quiet (begins _) args id))
        (.cons (fun args id makes => absurd makes (quiet (removes _) args id)) h)

/-- What is made in the rounds of a creation is accounted for. -/
lemma History.accounted {retries : Nat} {σ σ' : Session} {rounds : List Round}
    (h : History s service o g retries failed σ rounds result σ') :
    Accounted s service σ.binary (eventsOf rounds) result := by
  induction h with
  | @stop _ _ _ t _ made _ =>
    have events : eventsOf [t] = t.events ++ [] := by simp [eventsOf, List.intercalate]
    rw [events]
    exact made.course.accounted (.inl ⟨rfl, rfl⟩) .nil
  | @again _ _ _ _ σ₁ _ _ _ made again rest ih =>
    rw [eventsOf_cons rest.ne_nil]
    have binary : σ₁.paused.binary = _ := made.binary
    rw [binary] at ih
    exact made.course.accounted (.inr again) (.cons (fun _ _ makes => makes.elim) ih)

/-- Whatever docker answers, every container that a creation makes is started as the last thing that
happens and its runner returned, or removed as soon as it does not start; if its removal fails too,
the creation ends there with both failures. -/
theorem created_containers_accounted (s : Settings) (service : Service) (r : Runner) (σ : Session) :
    ∃ events, (createRunner s service r σ).2.log = σ.log ++ events ∧
      Accounted s service σ.binary events (createRunner s service r σ).1 := by
  rcases order : Order.ofTemplate service r with e | o
  · rw [createRunner_refused order]
    exact ⟨[], by simp, .nil⟩
  obtain ⟨events, grew⟩ := layGroundwork_asks s service o σ
  have quiet : ∀ e ∈ events, ∀ args id, ¬ Makes σ.binary args id e :=
    fun e mem => not_makes_of_asks (by decide) (grew.asks e mem)
  rcases ground : layGroundwork s service o σ with ⟨e | g, σ₁⟩
  · rw [ground] at grew
    rw [createRunner_ungrounded order ground]
    refine ⟨events ++ [], ?_, .append quiet .nil⟩
    simpa using grew.log
  · rw [ground] at grew
    rw [createRunner_attempts order ground]
    obtain ⟨rounds, history⟩ :=
      exists_history s service o g (s.maxAttempts - 1).toNat [] σ₁
    have binary : σ₁.binary = σ.binary := grew.binary
    refine ⟨events ++ eventsOf rounds, ?_, .append quiet ?_⟩
    · rw [history.log, ← List.append_assoc]
      exact congrArg (· ++ _) grew.log
    · rw [← binary]
      exact history.accounted

end ProxyFleet.Creation
