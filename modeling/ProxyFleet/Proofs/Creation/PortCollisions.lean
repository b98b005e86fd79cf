import ProxyFleet.Proofs.Creation.Ports

/-!
# Collisions of ports

Docker refuses to create or to start a container whose port is taken. That ends the creation of a
relay that was asked for this port; a relay whose port was allotted is tried again with another one.
-/

namespace ProxyFleet.Creation
open Docker

variable {s : Settings} {service : Service} {o : Order} {g : Groundwork} {r : Runner}
  {a : Allocation} {binary : Text} {args : List Text} {failed : List Int} {port p : Int}
  {e : Event} {reply : Reply} {f : Failure} {events front after : List Event} {t : Round}
  {σ σ' : Session}

/-! ## Collisions in a round -/

/-- Whether an event is the refusal to create or to start a container because a port is taken. -/
def PortCollision (binary : Text) (e : Event) : Prop :=
  ∃ args reply f, e = .call (binary :: args) reply ∧ Commands ["create", "start"] args ∧
    reply.result args = .error f ∧ f.isPortCollision = true

/-- Whether no removal fails in the course of events, but for containers that are already gone. -/
def Cleared (binary : Text) (events : List Event) : Prop :=
  ∀ args reply f, .call (binary :: args) reply ∈ events → Commands ["rm"] args →
    reply.result args = .error f → saysGone f = true

/-- The reply to a call that collides with a port is a failure that says so. -/
lemma PortCollision.result_eq (h : PortCollision binary (.call (binary :: args) reply)) :
    ∃ f, reply.result args = .error f ∧ f.isPortCollision = true := by
  obtain ⟨_, _, f, eq, -, refused, collides⟩ := h
  cases eq
  exact ⟨f, refused, collides⟩

/-- Whatever such a call fails with is a collision with a port. -/
lemma PortCollision.of_error (h : PortCollision binary (.call (binary :: args) reply))
    (refused : reply.result args = .error f) : f.isPortCollision = true := by
  obtain ⟨_, refused', collides⟩ := h.result_eq
  cases refused.symm.trans refused'
  exact collides

/-- A call that is accepted does not collide. -/
lemma not_portCollision {out : Text} (accepted : reply.result args = .ok out) :
    ¬ PortCollision binary (.call (binary :: args) reply) := by
  intro h
  obtain ⟨_, refused, -⟩ := h.result_eq
  cases accepted.symm.trans refused

/-- A collision is neither among what prepares an attempt nor a removal. -/
lemma PortCollision.not_asks {names : List Text} (h : PortCollision binary e)
    (create : ("create" : Text) ∉ names) (start : ("start" : Text) ∉ names) :
    ¬ e.Asks binary (Commands names) := by
  obtain ⟨args, reply, f, rfl, ⟨name, known, head⟩, -⟩ := h
  rintro ⟨_, eq, name', known', head'⟩
  cases eq
  cases head.symm.trans head'
  rcases List.mem_pair.mp known with rfl | rfl
  · exact create known'
  · exact start known'

/-- What comes last comes after anything else. -/
lemma mem_of_last {last : Event} (final : events.getLast? = some last)
    (cut : events = front ++ e :: after) (other : e ≠ last) : last ∈ after := by
  rw [cut] at final
  rcases List.eq_nil_or_concat' after with rfl | ⟨others, e', rfl⟩
  · rw [List.getLast?_concat] at final
    exact absurd (Option.some.inj final) other
  · rw [← List.cons_append, ← List.append_assoc, List.getLast?_concat] at final
    rw [Option.some.inj final]
    exact List.mem_concat_self

/-- A round in which a port collides fails with the collision, after a port had been allocated; if
no removal fails after that, nothing is left behind. -/
lemma Course.of_collision (course : Course s service o g failed σ t)
    (cut : t.events = front ++ e :: after) (collides : PortCollision σ.binary e) :
    ∃ f a events, t.outcome.result = .error f ∧ f.isPortCollision = true ∧
      Preparation s service o failed σ.numbered (.ok a) events ∧ t.outcome.port = a.port ∧
      (Cleared σ.binary after → t.removal = .ok ()) := by
  have mem : e ∈ t.events := cut ▸ List.mem_append_right front List.mem_cons_self
  have unprepared : ∀ {events : List Event},
      (∀ e ∈ events, e.Asks σ.binary (Commands preparing)) → e ∉ events :=
    fun asks mem => collides.not_asks (by decide) (by decide) (asks e mem)
  cases course with
  | unwritten => exact absurd mem List.not_mem_nil
  | unprepared prep => exact absurd mem (unprepared prep.asks)
  | @refused a _ events _ prep refused =>
    cases List.mem_singleton.mp ((List.mem_append.mp mem).resolve_left (unprepared prep.asks))
    exact ⟨_, a, events, rfl, collides.of_error refused, prep, rfl, fun _ => rfl⟩
  | started prep accepted ready =>
    rcases List.mem_pair.mp ((List.mem_append.mp mem).resolve_left (unprepared prep.asks)) with
      rfl | rfl
    · exact absurd collides (not_portCollision accepted)
    · exact absurd collides (not_portCollision ready)
  | @nameless a _ _ events _ _ prep accepted _ unstarted =>
    rcases List.mem_pair.mp ((List.mem_append.mp mem).resolve_left (unprepared prep.asks)) with
      rfl | rfl
    · exact absurd collides (not_portCollision accepted)
    · exact ⟨_, a, events, rfl, collides.of_error unstarted, prep, rfl, fun _ => rfl⟩
  | @removed a out _ removal events made began undone prep accepted _ unstarted undoes =>
    have removes : Event.Asks σ.binary (Commands ["rm"])
        (.call (σ.binary :: removeArgs (Text.strip out) true true) undone) := ⟨_, rfl, .head _ _⟩
    have other : e ≠ .call (σ.binary :: removeArgs (Text.strip out) true true) undone := by
      rintro rfl
      exact collides.not_asks (by decide) (by decide) removes
    rcases List.mem_cons.mp ((List.mem_append.mp mem).resolve_left (unprepared prep.asks)) with
      rfl | mem
    · exact absurd collides (not_portCollision accepted)
    obtain rfl := (List.mem_pair.mp mem).resolve_right other
    refine ⟨_, a, events, rfl, collides.of_error unstarted, prep, rfl, fun cleared => ?_⟩
    -- the container that did not start is removed by the last command of the round
    have last := mem_of_last (by simp) cut other
    rcases removal with c | ⟨⟩
    · obtain ⟨failure, present⟩ := (undoes c).mp rfl
      cases present.symm.trans (cleared _ _ c last (.head _ _) failure)
    · rfl

/-! ## Ports that are asked for -/

/-- A port that is asked for is the one that is allocated, unless it is zero. -/
lemma prepareAttempt_asked (asked : o.fixedPort = some p) (nonzero : p ≠ 0) (failed : List Int) :
    Yields (fun a => a.port = some p) (prepareAttempt s .relay o failed) := by
  have chosen : Yields (fun port => port = p) (choosePort s o failed) := by
    rw [choosePort, asked]
    simp only [if_neg nonzero]
    exact .lift fun _ writes => (writable_ok writes).1
  refine .bind (.any _) fun _ _ => .bind (.any _) fun name _ => .bind (.any _) fun address _ =>
    .bind chosen fun port eq => .bind (.any _) fun _ _ => .pure ?_
  exact congrArg some eq

/-- A port that is asked for is the one that is allocated, unless it is zero. -/
lemma Preparation.asked {outcome : Allocation}
    (prep : Preparation s .relay o failed σ (.ok outcome) events) (asked : o.fixedPort = some p)
    (nonzero : p ≠ 0) : outcome.port = some p :=
  prepareAttempt_asked asked nonzero failed σ outcome prep.ended

/-- A collision with a port is a collision. -/
lemma isCollision_of_isPortCollision (h : f.isPortCollision = true) : f.isCollision = true := by
  cases f
  case command =>
    exact List.any_eq_true.mpr ⟨Failure.portMarker, by simp [Failure.collisionMarkers], h⟩
  all_goals cases h

/-! ## Collisions in a creation -/

/-- Whether a creation ends because a port is taken, with what happened when its container was
removed, if that failed too. -/
def EndsInUse (port : Int) (result : Except Failure Runner) : Prop :=
  result = .error (.portInUse (some port)) ∨
    ∃ c, result = .error (.combined (.portInUse (some port)) [.repository c false none])

section

variable {retries : Nat} {rounds : List Round} {result : Except Failure Runner}

/-- A collision of the port that was asked for ends the creation. -/
lemma History.collision_ends (h : History s .relay o g retries failed σ rounds result σ')
    (asked : o.fixedPort = some p) (nonzero : p ≠ 0) (k : Nat) (hk : k < rounds.length)
    (cut : rounds[k].events = front ++ e :: after) (collides : PortCollision σ.binary e) :
    k + 1 = rounds.length ∧ EndsInUse p result := by
  obtain ⟨avoided, τ, τ', made, binary, -⟩ := h.round k hk
  rw [← binary] at collides
  obtain ⟨f, a, _, ended, found, prep, chosen, -⟩ := made.course.of_collision cut collides
  have stops : ¬ rounds[k].Repeats .relay o.fixedPort := by
    rw [Round.repeats_iff ended]
    simp [isRetryable, asked, found]
  have last : k + 1 = rounds.length := by
    have more := mt fun further => ((h.goes_on k hk).mp further).1
    have := more stops
    omega
  have verdict : result = rounds[k].verdict .relay := by
    refine h.result_eq ?_
    rw [List.getLast?_eq_getElem?, ← last, Nat.add_sub_cancel, List.getElem?_eq_getElem hk]
  have final : finalFailure .relay rounds[k].outcome.port rounds[k].outcome.container f =
      .portInUse (some p) := by
    rw [finalFailure, if_pos ⟨rfl, found⟩, chosen, prep.asked asked nonzero]
  refine ⟨last, ?_⟩
  rw [verdict, Round.verdict, ended]
  rcases rounds[k].removal with c | ⟨⟩
  · exact .inr ⟨c, by rw [← final]⟩
  · exact .inl (by rw [← final])

/-- A collision of a port that was allotted is followed by another attempt, if a retry is left and
nothing else is. -/
lemma History.collision_retried (h : History s .relay o g retries failed σ rounds result σ')
    (free : o.fixedPort = none) (k : Nat) (hk : k < rounds.length)
    (cut : rounds[k].events = front ++ e :: after) (collides : PortCollision σ.binary e)
    (cleared : Cleared σ.binary after) (left : k < retries) : k + 1 < rounds.length := by
  obtain ⟨avoided, τ, τ', made, binary, -⟩ := h.round k hk
  rw [← binary] at collides cleared
  obtain ⟨f, a, _, ended, found, -, -, clears⟩ := made.course.of_collision cut collides
  refine (h.goes_on k hk).mpr ⟨(Round.repeats_iff ended).mpr ⟨?_, clears cleared⟩, left⟩
  simp [isRetryable, free, isCollision_of_isPortCollision found]

end

/-- A relay that is asked for a port other than zero publishes this port in every attempt, and a
collision of it ends the creation, since the port is in use. A collision of a port that was allotted
because none was asked for is followed by another attempt, as long as one is left and the container
could be removed. -/
theorem socket_port_decides (s : Settings) (r : Runner) (σ : Session) :
    ∃ laid attempts, Attempted s .relay r σ laid attempts ∧
      (∀ p, p ≠ 0 → r.socketPort = some p →
        (∀ events ∈ attempts, ∀ e ∈ events, ∀ args, creation? e = some args →
          Publishes s args p) ∧
        ∀ k (hk : k < attempts.length), ∀ e ∈ attempts[k], PortCollision σ.binary e →
          k + 1 = attempts.length ∧ EndsInUse p (createRunner s .relay r σ).1) ∧
      (r.socketPort = none → ∀ k (hk : k < attempts.length) front e after,
        attempts[k] = front ++ e :: after → PortCollision σ.binary e → Cleared σ.binary after →
        (k : Int) + 1 < s.maxAttempts → k + 1 < attempts.length) := by
  obtain ⟨laid, rounds, attempted, rfl | ⟨o, g, σ₁, order, fits, binary, history⟩⟩ :=
    createRunner_attempted s .relay r σ
  · refine ⟨laid, [], attempted, fun p _ _ => ⟨nofun, fun k hk => ?_⟩, fun _ k hk => ?_⟩ <;>
      exact absurd hk (Nat.not_lt_zero k)
  have port := fixedPort_of_relay order
  refine ⟨laid, rounds.map Round.events, attempted, fun p nonzero asked => ⟨?_, ?_⟩, ?_⟩
  · intro events mem e mem' args creation
    obtain ⟨t, made, rfl⟩ := List.mem_map.mp mem
    refine history.forall_rounds (P := fun t => e ∈ t.events → Publishes s args p)
      (fun _ course mem => ?_) t made mem'
    obtain ⟨id, a, _, prep, -, eq⟩ := course.of_creation mem creation
    exact eq ▸ createArgs_publishes fits (prep.asked (port.trans asked) nonzero)
  · intro k hk e mem collides
    rw [List.getElem_map] at mem
    rw [List.length_map] at hk ⊢
    obtain ⟨front, after, cut⟩ := List.append_of_mem mem
    exact history.collision_ends (port.trans asked) nonzero k hk cut (binary ▸ collides)
  · intro free k hk front e after cut collides cleared left
    rw [List.getElem_map] at cut
    rw [List.length_map] at hk ⊢
    rw [← binary] at collides cleared
    exact history.collision_retried (port.trans free) k hk cut collides cleared (by omega)

namespace Sample

/-- A template for a relay that asks for port zero. -/
def zeroTemplate : Runner := { relayTemplate with socketPort := some 0 }

/-- The port that a creation found in use. -/
def inUse? : Except Failure Runner → Option Int
  | .error (.portInUse port) => port
  | _ => none

end Sample

/-- A relay that is asked for port zero publishes another one, which was allotted, and still is not
tried again when that one is taken. -/
theorem zero_port_replaced :
    ∃ σ' e args, createRunner Sample.settings .relay Sample.zeroTemplate Sample.relaySession =
        (.error (.portInUse (some 3129)), σ') ∧
      e ∈ σ'.log ∧ creation? e = some args ∧ ¬ Publishes Sample.settings args 0 := by
  have ran : (Sample.inUse? (createRunner Sample.settings .relay Sample.zeroTemplate
        Sample.relaySession).1,
      Sample.publications (createRunner Sample.settings .relay Sample.zeroTemplate
        Sample.relaySession).2) =
      (some 3129, [some ("3129:1234/tcp" : Text)]) := by decide +kernel
  obtain ⟨found, published⟩ := Prod.mk.inj ran
  rcases ended : createRunner Sample.settings .relay Sample.zeroTemplate Sample.relaySession
    with ⟨result, σ'⟩
  rw [ended] at found published
  obtain ⟨args, mem, host⟩ := List.mem_map.mp (published ▸ List.mem_singleton_self _ :
    some ("3129:1234/tcp" : Text) ∈ Sample.publications σ')
  obtain ⟨e, logged, creation⟩ := List.mem_filterMap.mp mem
  refine ⟨σ', e, args, ?_, logged, creation, fun publishes => ?_⟩
  · unfold Sample.inUse? at found
    split at found
    · rename_i failed
      rw [found] at failed
      exact Prod.ext failed rfl
    · cases found
  · have other := host.symm.trans publishes.host
    revert other
    decide

end ProxyFleet.Creation
