import Mathlib.Data.List.Induction
import ProxyFleet.Proofs.Creation.Success
import ProxyFleet.Proofs.Docker.Filters
import ProxyFleet.Proofs.Docker.Trace
import ProxyFleet.Proofs.Label.Writing

/-!
# What a creation removes

A creation removes no container but its own: the one that it has just made, and those that an
earlier attempt of the same order has left. The latter are found by a query that names the service
and every owner of the order.
-/

namespace ProxyFleet.Creation
open Docker

/-! ## Queries -/

/-- Whether arguments have a filter. -/
def Filters (args : List Text) (filter : Text) : Prop :=
  [("--filter" : Text), filter] <:+: args

/-- Whether arguments of a listing select the containers of an order that were never started: they
name the service, an identity and every label of the owners but secrets. -/
structure StaleQuery (s : Settings) (service : Service) (models : List Model) (args : List Text) :
    Prop where
  listing : Commands ["ps"] args
  stopped : ("--all" : Text) ∈ args
  status : Filters args "status=created"
  project : Filters args ("label=" ++ s.projectFilter service)
  identity : ∃ value,
    Filters args ("label=" ++ fieldKey s.docker.keyPrefix .identity "id" ++ "=" ++ value)
  owners : ∀ label ∈ Model.flatAll s.docker.keyPrefix secretFields models,
    Filters args ("label=" ++ assignment label)

variable {s : Settings} {service : Service} {o : Order} {g : Groundwork} {failed : List Int}
  {r : Runner} {binary id : Text} {args : List Text} {models : List Model}
  {events more before : List Event}

/-- A filter that is flagged is one of the filters of a call. -/
lemma filters_of_mem {filter : Text} {filters : List Text} (front : List Text)
    (mem : filter ∈ filters) : Filters (front ++ flagged "--filter" filters) filter := by
  obtain ⟨before, after, rfl⟩ := List.append_of_mem mem
  exact ⟨front ++ flagged "--filter" before, flagged "--filter" after, by simp [flagged]⟩

/-- Stale containers are listed by a query for stale containers. -/
lemma Order.Faithful.staleQuery (faithful : Order.Faithful r o) (service : Service) :
    StaleQuery s service o.models (staleArgs s service o) := by
  have selected : ∀ filter ∈ assignments "label"
      (s.projectFilter service :: (s.ownerLabels o).map assignment) ++ [("status=created" : Text)],
      Filters (staleArgs s service o) filter := fun _ mem =>
    filters_of_mem ["ps", "--quiet", "--no-trunc", "--all"] mem
  have owner : ∀ label ∈ s.ownerLabels o,
      Filters (staleArgs s service o) ("label=" ++ assignment label) := by
    intro label mem
    refine selected _ (List.mem_append_left _ (List.mem_cons_of_mem _ ?_))
    exact List.mem_map_of_mem (List.mem_map_of_mem mem)
  refine ⟨.head _ _, by simp [staleArgs], selected _ (by simp), selected _ ?_, ?_, owner⟩
  · exact List.mem_append_left _ List.mem_cons_self
  · obtain ⟨m, mem, identity, supplied⟩ := faithful.identity
    have known : (⟨"id", .text⟩ : Field) ∈ m.owner.fields := by
      rw [identity]
      decide
    have kept : ("id" : Text) ∉ secretFields := by decide
    obtain ⟨value, written⟩ := Option.isSome_iff_exists.mp
      (Model.isSome_get?_flatAll (p := s.docker.keyPrefix)
        (Label.wellFormed_of_read faithful.models) mem known kept supplied)
    rw [identity] at written
    refine ⟨value, ?_⟩
    have named := owner _ (Keyed.mem_of_get? written)
    simpa [assignment] using named

/-! ## Removals -/

/-- Whether the last container that docker was told to create has the given identifier. -/
def Printed (binary : Text) (before : List Event) (id : Text) : Prop :=
  ∃ front args made after out,
    before = front ++ .call (binary :: "create" :: args) made :: after ∧
    (∀ e ∈ after, ¬ e.Asks binary (Commands ["create"])) ∧
    made.result ("create" :: args) = .ok out ∧ Text.strip out = id

/-- Whether the last query was one for the stale containers of an order and found a container with
the given identifier; nothing but removals has happened since. -/
def Shown (s : Settings) (service : Service) (models : List Model) (binary : Text)
    (before : List Event) (id : Text) : Prop :=
  ∃ front args listed out shown after cs,
    before = front ++ .call (binary :: args) listed ::
      .call (binary :: inspectArgs (readIds out)) shown :: after ∧
    StaleQuery s service models args ∧
    (∀ e ∈ after, e.Asks binary (Commands ["rm"])) ∧
    listed.result args = .ok out ∧ described (readIds out) shown = .ok cs ∧
    ∃ c ∈ cs, c.id = .str id

/-- Whether a removal with the given arguments may follow events: it removes one container, which
was made or found by them. -/
def MayRemove (s : Settings) (service : Service) (models : List Model) (binary : Text)
    (before : List Event) (args : List Text) : Prop :=
  ∃ id, args = [("--force" : Text), "--volumes", id] ∧
    (Printed binary before id ∨ Shown s service models binary before id)

/-- Whether every query for containers that were never started is one for those of the order, and
every removal may follow what comes before it. -/
structure Rightful (s : Settings) (service : Service) (models : List Model) (binary : Text)
    (events : List Event) : Prop where
  queries : ∀ args reply, .call (binary :: args) reply ∈ events → Commands ["ps"] args →
    ("status=created" : Text) ∈ args → StaleQuery s service models args
  removals : ∀ before args reply after,
    events = before ++ .call (binary :: "rm" :: args) reply :: after →
    MayRemove s service models binary before args

/-- Whether arguments remove no container, and query for containers that were never started only if
these are those of the order. -/
structure Proper (s : Settings) (service : Service) (models : List Model) (args : List Text) :
    Prop where
  keeps : ¬ Commands ["rm"] args
  stale : Commands ["ps"] args → ("status=created" : Text) ∈ args →
    StaleQuery s service models args

/-- Commands that neither remove nor list are proper. -/
lemma Proper.ofCommands {names : List Text} (keeps : ("rm" : Text) ∉ names)
    (passes : ("ps" : Text) ∉ names) (asked : Commands names args) :
    Proper s service models args :=
  ⟨Commands.not_of_not_mem keeps asked, fun ps => absurd ps (Commands.not_of_not_mem passes asked)⟩

/-- A query for stale containers is proper. -/
lemma StaleQuery.proper (stale : StaleQuery s service models args) :
    Proper s service models args :=
  ⟨Commands.not_of_not_mem (by decide) stale.listing, fun _ _ => stale⟩

/-- What is flagged is the flag or one of the arguments. -/
lemma mem_flagged {flag a : Text} (mem : a ∈ flagged flag args) : a = flag ∨ a ∈ args := by
  obtain ⟨b, given, mem⟩ := List.mem_flatMap.mp mem
  rcases List.mem_pair.mp mem with rfl | rfl
  · exact .inl rfl
  · exact .inr given

/-- A listing is restricted to containers that were never started only when it is told to be. -/
lemma created_mem_status {q : Query} (h : q.toArgs = .ok args)
    (mem : ("status=created" : Text) ∈ args) : ("created" : Text) ∈ q.status := by
  obtain ⟨name, named, h⟩ := bind_eq_ok.mp h
  cases h
  have first : ∀ {x : Text}, x = "status=created" → x.head? = some (.char 's') := by
    rintro _ rfl
    decide
  have front : ∀ stopped, ("status=created" : Text) ∉
      ("ps" : Text) :: "--quiet" :: "--no-trunc" :: switch "--all" stopped := by decide
  have mem := (List.mem_append.mp mem).resolve_left (front q.stopped)
  rcases mem_flagged mem with eq | mem
  · exact absurd eq (by decide)
  simp only [List.mem_append, assignments, List.mem_map] at mem
  obtain ((⟨v, -, eq⟩ | ⟨v, given, eq⟩) | mem) | ⟨v, -, eq⟩ := mem
  · cases first eq
  · have eq : ("status=" : Text) ++ v = "status=" ++ "created" := eq
    exact List.append_cancel_left eq ▸ given
  · cases (head?_of_mem_nameFilter named mem).symm.trans (first rfl)
  · cases first eq

/-- Everything preparatory is proper. -/
lemma admits_proper : Admits (Proper s service models) where
  listing {q args} fresh h := by
    have listing : Commands ["ps"] args := ⟨"ps", by simp, Query.toArgs_head h⟩
    exact ⟨Commands.not_of_not_mem (by decide) listing,
      fun _ mem => absurd (created_mem_status h mem) fresh⟩
  others _ := Proper.ofCommands (by decide) (by decide)

/-- What may be removed may be removed later, too. -/
lemma MayRemove.prepend (front : List Event) (h : MayRemove s service models binary before args) :
    MayRemove s service models binary (front ++ before) args := by
  obtain ⟨id, eq, ⟨front', args', made, after, out, rfl, made'⟩ |
    ⟨front', args', listed, out, shown, after, cs, rfl, found⟩⟩ := h
  · exact ⟨id, eq, .inl ⟨front ++ front', args', made, after, out, by simp, made'⟩⟩
  · exact ⟨id, eq, .inr ⟨front ++ front', args', listed, out, shown, after, cs, by simp, found⟩⟩

namespace Rightful

/-- Calls that are proper are rightful. -/
lemma ofAsks (h : ∀ e ∈ events, e.Asks binary (Proper s service models)) :
    Rightful s service models binary events := by
  constructor
  · intro args reply mem
    obtain ⟨_, eq, proper⟩ := h _ mem
    cases eq
    exact proper.stale
  · rintro before args reply after rfl
    obtain ⟨_, eq, proper⟩ := h _ (List.mem_append_right before List.mem_cons_self)
    cases eq
    exact absurd (.head _ _) proper.keeps

/-- A pause is rightful. -/
lemma pause : Rightful s service models binary [.pause] := by
  constructor
  · intro args reply mem
    cases List.mem_singleton.mp mem
  · intro before args reply after eq
    rcases List.append_eq_singleton_iff.mp eq.symm with ⟨-, eq⟩ | ⟨-, eq⟩ <;> cases eq

/-- More events may follow when their removals may follow all that comes before. -/
lemma extend (h : Rightful s service models binary events)
    (queries : ∀ args reply, .call (binary :: args) reply ∈ more → Commands ["ps"] args →
      ("status=created" : Text) ∈ args → StaleQuery s service models args)
    (removals : ∀ before args reply after,
      more = before ++ .call (binary :: "rm" :: args) reply :: after →
      MayRemove s service models binary (events ++ before) args) :
    Rightful s service models binary (events ++ more) := by
  constructor
  · intro args reply mem
    rcases List.mem_append.mp mem with mem | mem
    · exact h.queries args reply mem
    · exact queries args reply mem
  · intro before args reply after eq
    rcases List.append_eq_append_iff.mp eq with ⟨mid, rfl, cut⟩ | ⟨mid, rfl, cut⟩
    · exact removals mid args reply after cut
    · -- the removal is the last of the first events or the first of the others
      cases mid with
      | nil =>
        have allowed := removals [] args reply after cut.symm
        simpa using allowed
      | cons e mid =>
        cases cut
        exact h.removals before args reply mid rfl

/-- What is rightful may follow what is rightful. -/
lemma append (h : Rightful s service models binary events)
    (h' : Rightful s service models binary more) :
    Rightful s service models binary (events ++ more) :=
  h.extend h'.queries fun before args reply after eq =>
    (h'.removals before args reply after eq).prepend events

/-- A proper call may follow what is rightful. -/
lemma call (h : Rightful s service models binary events) (proper : Proper s service models args)
    (reply : Reply) :
    Rightful s service models binary (events ++ [.call (binary :: args) reply]) :=
  h.append (.ofAsks fun e mem => by
    cases List.mem_singleton.mp mem
    exact ⟨args, rfl, proper⟩)

/-- A container may be removed that was printed or shown before. -/
lemma remove (h : Rightful s service models binary events) (reply : Reply)
    (found : Printed binary events id ∨ Shown s service models binary events id) :
    Rightful s service models binary
      (events ++ [.call (binary :: removeArgs id true true) reply]) := by
  refine h.extend ?_ ?_
  · intro args reply mem ps
    cases List.mem_singleton.mp mem
    have removes : Commands ["rm"] (removeArgs id true true) := .head _ _
    exact absurd ps (Commands.not_of_not_mem (by decide) removes)
  · intro before args reply after eq
    rcases List.append_eq_singleton_iff.mp eq.symm with ⟨rfl, eq⟩ | ⟨-, eq⟩
    · cases eq
      rw [List.append_nil]
      exact ⟨id, rfl, found⟩
    · cases eq

end Rightful

/-! ## Attempts -/

variable {cs : List Container} {c : Container}

/-- A container that a query for stale containers listed has been shown. -/
lemma Shown.ofListed (h : Listed binary args events (.ok cs))
    (stale : StaleQuery s service models args)
    (removing : ∀ e ∈ more, e.Asks binary (Commands ["rm"])) (mem : c ∈ cs)
    (named : c.id = .str id) : Shown s service models binary (events ++ more) id := by
  generalize ended : Except.ok cs = r at h
  cases h with
  | failed => cases ended
  | none =>
    cases ended
    cases mem
  | inspected listed _ =>
    exact ⟨[], args, _, _, _, more, cs, rfl, stale, removing, listed, ended.symm, c, mem, named⟩

/-- A query for stale containers with its inspection is rightful. -/
lemma Rightful.ofListed {r : Except Failure (List Container)} (h : Listed binary args events r)
    (stale : StaleQuery s service models args) : Rightful s service models binary events := by
  refine .ofAsks fun e mem => (h.asks e mem).mono ?_
  rintro _ (rfl | asked)
  · exact stale.proper
  · exact .ofCommands (by decide) (by decide) asked

/-- Every container that the query has found may be removed. -/
lemma Rightful.removeFound (h : Listed binary args events (.ok cs))
    (stale : StaleQuery s service models args)
    (removing : ∀ e ∈ more, e.Asks binary fun args' =>
      ∃ c ∈ cs, ∃ id, c.id = .str id ∧ args' = removeArgs id true true) :
    Rightful s service models binary (events ++ more) := by
  -- the removals before each one are the events since the query
  induction more using List.reverseRecOn with
  | nil =>
    rw [List.append_nil]
    exact .ofListed h stale
  | append_singleton front e ih =>
    have earlier := fun e' mem => removing e' (List.mem_append_left [e] mem)
    obtain ⟨c, mem, id, named, asked⟩ : ∃ c ∈ cs, ∃ id, c.id = .str id ∧
        ∃ reply, e = .call (binary :: removeArgs id true true) reply := by
      have asked := removing e (List.mem_append_right _ List.mem_cons_self)
      cases e with
      | pause => exact asked.elim
      | call argv reply =>
        obtain ⟨_, rfl, c, mem, id, named, rfl⟩ := asked
        exact ⟨c, mem, id, named, reply, rfl⟩
    obtain ⟨reply, rfl⟩ := asked
    rw [← List.append_assoc]
    refine (ih earlier).remove reply (.inr (.ofListed h stale (fun e' mem => ?_) mem named))
    refine (earlier e' mem).mono ?_
    rintro _ ⟨_, -, _, -, rfl⟩
    exact .head _ _

/-- Removing stale containers is rightful. -/
lemma removeStale_rightful (stale : StaleQuery s service models (staleArgs s service o)) :
    Leaves binary (fun events _ => Rightful s service models binary events)
      (removeStale s service o) := by
  refine .lift_bind (fun _ _ => .ofAsks nofun) fun owners written => ?_
  obtain ⟨-, rfl⟩ := ownerLabels_written.mp written
  refine .bind (.list (staleQuery_toArgs s service o)) (fun _ _ h => .ofListed h stale) ?_
  intro events cs listed
  refine (Leaves.ofAsks (.forM cs fun c mem => ?_)).mono fun more _ removing =>
    .removeFound listed stale removing
  split
  · rename_i id named
    intro σ
    obtain ⟨reply, -, grew⟩ := remove_grew id true true σ
    exact ⟨_, grew.mono fun args eq => ⟨c, mem, id, named, eq⟩⟩
  · exact .throw _

/-- Preparing an attempt is rightful. -/
lemma prepareAttempt_rightful (stale : StaleQuery s service models (staleArgs s service o))
    (failed : List Int) :
    Leaves binary (fun events _ => Rightful s service models binary events)
      (prepareAttempt s service o failed) :=
  .bind (removeStale_rightful stale) (fun _ _ h => h) fun _ _ h =>
    (Leaves.ofAsks (admits_proper.allocate s service o failed).asks).mono fun _ _ asks =>
      h.append (.ofAsks asks)

/-- A container that was created last has been printed. -/
lemma Printed.ofMade {spec : Spec} {made : Reply} {out : Text} (front : List Event)
    (accepted : made.result spec.toArgs = .ok out)
    (last : ∀ e ∈ more, ¬ e.Asks binary (Commands ["create"])) :
    Printed binary (front ++ .call (binary :: spec.toArgs) made :: more) (Text.strip out) := by
  obtain ⟨rest, eq⟩ := spec.exists_toArgs
  rw [eq] at accepted ⊢
  exact ⟨front, "--name" :: rest, made, more, out, rfl, last, accepted, rfl⟩

/-- An attempt that has made a container has made it last. -/
lemma attemptOnce_rightful (stale : StaleQuery s service models (staleArgs s service o))
    (g : Groundwork) (failed : List Int) :
    Leaves binary (fun events r => Rightful s service models binary events ∧
      ∃ outcome, r = .ok outcome ∧ ∀ id, outcome.container = some id → Printed binary events id)
      (attemptOnce s service o g failed) := by
  unfold attemptOnce
  refine .newId_bind fun id => ?_
  refine .bind_attempt (prepareAttempt_rightful stale failed) fun events r prepared => ?_
  rcases r with e | a
  · exact .pure ⟨by simpa using prepared, _, rfl, nofun⟩
  refine .bind_attempt (.create (specOf s o g id a)) ?_
  rintro _ r ⟨made, rfl, ended⟩
  have created := prepared.call
    (.ofCommands (by decide) (by decide) (specOf s o g id a).toArgs_creates) made
  rcases r with e | container
  · exact .pure ⟨by simpa using created, _, rfl, nofun⟩
  obtain ⟨out, accepted, rfl⟩ := map_eq_ok.mp ended.symm
  refine .bind_attempt (.start (Text.strip out)) ?_
  rintro _ r ⟨began, rfl⟩
  have starts : Commands ["start"] (startArgs (Text.strip out)) := .head _ _
  have started := created.call (.ofCommands (by decide) (by decide) starts) began
  have printed : Printed binary (events ++ [.call (binary :: (specOf s o g id a).toArgs) made] ++
      [.call (binary :: startArgs (Text.strip out)) began]) (Text.strip out) := by
    rw [List.append_assoc]
    refine .ofMade events accepted fun e mem => ?_
    cases List.mem_singleton.mp mem
    rintro ⟨_, eq, asked⟩
    cases eq
    exact Commands.not_of_not_mem (by decide) starts asked
  rcases r with e | _ <;>
  · refine .pure ⟨by simpa using started, _, rfl, ?_⟩
    rintro _ ⟨⟩
    simpa using printed

/-- Removing the container that was created last is rightful. -/
lemma cleanUp_rightful {container : Option Text} (h : Rightful s service models binary events)
    (printed : ∀ id, container = some id → Printed binary events id) :
    Leaves binary (fun more _ => Rightful s service models binary (events ++ more))
      (cleanUp container) := by
  unfold cleanUp
  split
  · rename_i id
    split
    · exact .pure (by simpa using h)
    · refine (Leaves.attempt (.remove id true true)).mono ?_
      rintro _ _ ⟨_, -, undone, rfl⟩
      exact h.remove undone (.inl (printed id rfl))
  · exact .pure (by simpa using h)

/-- All attempts are rightful. -/
lemma makeAttempts_rightful (stale : StaleQuery s service models (staleArgs s service o))
    (g : Groundwork) (retries : Nat) (failed : List Int) :
    Leaves binary (fun events _ => Rightful s service models binary events)
      (makeAttempts s service o g retries failed) := by
  -- an attempt may follow any rightful events, whatever is left of the retries
  induction retries using Nat.strongRecOn generalizing failed with
  | ind retries ih =>
    unfold makeAttempts
    refine .bind (attemptOnce_rightful stale g failed) (fun _ _ h => h.1) ?_
    rintro events outcome ⟨rightful, _, eq, printed⟩
    cases eq
    split
    · exact .pure (by simpa using rightful)
    refine .bind (cleanUp_rightful rightful printed) (fun _ _ h => h) fun more removal cleaned => ?_
    split
    · exact .throw (by simpa using cleaned)
    split
    · exact .throw (by simpa using cleaned)
    · split
      · refine .bind .pause ?_ ?_
        · rintro _ _ ⟨_, eq⟩
          cases eq
        · rintro _ _ ⟨rfl, -⟩
          refine (ih _ (Nat.lt_succ_self _) _).mono fun rest _ h => ?_
          have paused := cleaned.append (Rightful.pause.append h)
          simpa using paused
      · exact .throw (by simpa using cleaned)

/-- A template that is refused asks docker for nothing. Any other one has a label that can be read,
and whatever docker answers, every container that its creation removes is the one that docker was
last told to create, or one that the query for stale containers of the order has just found; that
query names the service, an identity and every label of the owners but secrets. -/
theorem removed_containers_owned (s : Settings) (service : Service) (r : Runner) (σ : Session) :
    ∃ events, (createRunner s service r σ).2.log = σ.log ++ events ∧
      ((∃ e, Order.ofTemplate service r = .error e ∧ events = []) ∨
        ∃ o, Order.ofTemplate service r = .ok o ∧ r.label.read = .ok o.models ∧
          Rightful s service o.models σ.binary events) := by
  rcases order : Order.ofTemplate service r with e | o
  · rw [createRunner_refused order]
    exact ⟨[], by simp, .inl ⟨e, rfl, rfl⟩⟩
  have faithful := Order.Faithful.ofTemplate order
  have stale := faithful.staleQuery (s := s) service
  have admits : Admits (Proper s service o.models) := admits_proper
  obtain ⟨events, grew⟩ := (admits.layGroundwork s service o).asks σ
  have laid := Rightful.ofAsks grew.asks
  rcases ground : layGroundwork s service o σ with ⟨e | g, σ₁⟩
  · rw [ground] at grew
    rw [createRunner_ungrounded order ground]
    exact ⟨events, grew.log, .inr ⟨o, rfl, faithful.models, laid⟩⟩
  · rw [ground] at grew
    rw [createRunner_attempts order ground]
    obtain ⟨more, -, log, rightful⟩ :=
      makeAttempts_rightful stale g (s.maxAttempts - 1).toNat [] σ₁ grew.binary
    refine ⟨events ++ more, ?_, .inr ⟨o, rfl, faithful.models, laid.append rightful⟩⟩
    rw [log, grew.log, List.append_assoc]

end ProxyFleet.Creation
