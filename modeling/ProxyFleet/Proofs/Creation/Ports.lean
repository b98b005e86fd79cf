import ProxyFleet.Proofs.Creation.Attempts
import ProxyFleet.Proofs.Creation.Matching
import ProxyFleet.Proofs.Least

/-!
# Ports of relays

A relay publishes one port of the host, which its label repeats. When no port is asked for, every
attempt takes the least one from the start port on that neither a listed relay publishes nor an
earlier attempt has tried, so that no two attempts of a creation try the same port.
-/

namespace ProxyFleet.Creation
open Docker

variable {s : Settings} {o : Order} {g : Groundwork} {r : Runner} {a : Allocation}
  {binary id key : Text} {args : List Text} {failed used : List Int} {port m n : Int}
  {e : Event} {events before more : List Event} {found : List Container} {t : Round}
  {taken : Set Int} {σ σ' : Session}

/-! ## Published ports -/

/-- Whether a container that is created with the given arguments publishes one port of the host, by
its options as well as by its label. -/
structure Publishes (s : Settings) (args : List Text) (port : Int) : Prop where
  only : ∃ spec : Spec, spec.toArgs = ("create" : Text) :: args ∧
    spec.ports = [(port, s.relay.privatePort)]
  host : optionValue? "-p" (readOptions args) = some (published (port, s.relay.privatePort))
  label : assignment (s.portKey, Text.numeral port) ∈ givenLabels args

/-- A container publishes one port. -/
lemma Publishes.unique (h : Publishes s args m) (h' : Publishes s args n) : m = n := by
  have same : published (m, s.relay.privatePort) = published (n, s.relay.privatePort) :=
    Option.some.inj (h.host.symm.trans h'.host)
  unfold published at same
  exact Text.numeral_injective
    (List.append_cancel_right (List.append_cancel_right (List.append_cancel_right same)))

/-- The container of a relay publishes the port that was allocated. -/
lemma createArgs_publishes (fits : g.Fits .relay) (chosen : a.port = some port) :
    Publishes s ((createArgs s o g id a).drop 1) port := by
  have given : optionValue? "-p" (readOptions ((createArgs s o g id a).drop 1)) = _ ∧ _ :=
    port_given fits
  rw [chosen] at given
  refine ⟨⟨specOf s o g id a, createArgs_cons .., ?_⟩, given.1, given.2⟩
  · cases g <;> try exact fits.elim
    exact congrArg (fun port : Option Int => [(port.getD 0, s.relay.privatePort)]) chosen

/-- Whether a container that publishes the port is created in the course of events. -/
def Tries (s : Settings) (events : List Event) (port : Int) : Prop :=
  ∃ e ∈ events, ∃ args, creation? e = some args ∧ Publishes s args port

/-- The port that is tried in a round of a relay is the one that was allocated. -/
lemma Course.tries_iff {failed : List Int} (course : Course s .relay o g failed σ t)
    (fits : g.Fits .relay) : Tries s t.events port ↔ t.outcome.port = some port := by
  constructor
  · rintro ⟨e, mem, args, creation, publishes⟩
    obtain ⟨id, a, _, prep, chosen, eq⟩ := course.of_creation mem creation
    obtain ⟨port', allocated, -⟩ := prep.fits.port rfl
    rw [eq] at publishes
    rw [chosen, allocated]
    exact congrArg some ((createArgs_publishes fits allocated).unique publishes)
  · intro chosen
    obtain ⟨e, mem, id, a, allocated, creation⟩ := course.creates chosen
    exact ⟨e, mem, _, creation, createArgs_publishes fits allocated⟩

/-! ## Listings of relays -/

/-- The arguments that list the relays whose label has a port. -/
def portArgs (s : Settings) : List Text :=
  "ps" :: "--quiet" :: "--no-trunc" :: "--all" ::
    flagged "--filter" (assignments "label" [s.projectFilter .relay, s.portKey])

/-- Published ports are looked for by the project of relays and the label for ports. -/
lemma portQuery_toArgs (s : Settings) :
    Query.toArgs { labels := [s.projectFilter .relay, s.portKey] } = .ok (portArgs s) := rfl

/-- The ports that the labels of containers say they publish, other labels being ignored. -/
def publishedPorts (key : Text) (found : List Container) : Set Int :=
  {n | ∃ c ∈ found, ∃ label, c.labels.lookupOr key (.str "") = .ok label ∧
    readPort label = .ok (some n)}

/-- The ports in use are those that containers publish. -/
lemma mem_usedPorts (h : usedPorts key found = .ok used) :
    n ∈ used ↔ n ∈ publishedPorts key found := by
  induction found generalizing used with
  | nil =>
    cases h
    simp [publishedPorts]
  | cons c rest ih =>
    obtain ⟨label, looked, h⟩ := bind_eq_ok.mp h
    obtain ⟨port, read, h⟩ := bind_eq_ok.mp h
    obtain ⟨ports, others, h⟩ := bind_eq_ok.mp h
    cases h
    rw [List.mem_append, Option.mem_toList, ih others]
    simp [publishedPorts, looked, read]

/-- Whether there is one listing with the given arguments among events, and it found the given
containers. -/
def ListedOnce (binary : Text) (args : List Text) (events : List Event) (found : List Container) :
    Prop :=
  ∃ before listing after, events = before ++ (listing ++ after) ∧
    Listed binary args listing (.ok found) ∧
    ∀ e ∈ before ++ after, ¬ e.Asks binary (· = args)

/-- A call that is another one is not the listing of ports. -/
lemma not_asks_of_ne (asks : e.Asks binary (· ≠ args)) : ¬ e.Asks binary (· = args) := by
  cases e with
  | pause => exact asks.elim
  | call argv reply =>
    obtain ⟨_, rfl, other⟩ := asks
    rintro ⟨_, eq, rfl⟩
    cases eq
    exact other rfl

/-- Other events may come before and after. -/
lemma ListedOnce.extend (h : ListedOnce binary args events found)
    (earlier : ∀ e ∈ before, e.Asks binary (· ≠ args))
    (later : ∀ e ∈ more, e.Asks binary (· ≠ args)) :
    ListedOnce binary args (before ++ (events ++ more)) found := by
  obtain ⟨front, listing, after, rfl, listed, others⟩ := h
  refine ⟨before ++ front, listing, after ++ more, by simp, listed, fun e mem => ?_⟩
  simp only [List.mem_append] at mem others
  rcases mem with (mem | mem) | mem | mem
  · exact not_asks_of_ne (earlier e mem)
  · exact others e (.inl mem)
  · exact others e (.inr mem)
  · exact not_asks_of_ne (later e mem)

/-! ## Allotted ports -/

/-- Whether a port was allotted in the course of events: of the ports from the start port on, it is
the least one that is neither taken nor published by a relay that was listed. -/
def Allotted (s : Settings) (binary : Text) (taken : Set Int) (events : List Event) (port : Int) :
    Prop :=
  ∃ found, ListedOnce binary (portArgs s) events found ∧
    IsLeast {n | s.relay.startPort ≤ n ∧ n ∉ publishedPorts s.portKey found ∧ n ∉ taken} port

/-- Calls that are no listing of ports may be made before and after an allotment. -/
lemma Allotted.extend (h : Allotted s binary taken events port)
    (earlier : ∀ e ∈ before, e.Asks binary (· ≠ portArgs s))
    (later : ∀ e ∈ more, e.Asks binary (· ≠ portArgs s)) :
    Allotted s binary taken (before ++ (events ++ more)) port := by
  obtain ⟨found, listed, least⟩ := h
  exact ⟨found, listed.extend earlier later, least⟩

/-- A port is allotted from the one listing that asks for the ports in use. -/
lemma allocatePort_allots (s : Settings) (failed : List Int) :
    Leaves binary (fun events r => ∀ port, r = .ok port →
      Allotted s binary {n | n ∈ failed} events port) (allocatePort s failed) := by
  refine .bind (.list (portQuery_toArgs s)) nofun fun events found listed => ?_
  refine .lift_bind nofun fun used published => .lift fun port allocated => ?_
  obtain ⟨rfl, -⟩ := writable_ok allocated
  refine ⟨found, ⟨[], events, [], by simp, listed, nofun⟩, ?_⟩
  have taken : {n | s.relay.startPort ≤ n ∧ n ∉ publishedPorts s.portKey found ∧
      n ∉ {n | n ∈ failed}} = {n | s.relay.startPort ≤ n ∧ n ∉ failed ++ used} := by
    ext n
    simp [mem_usedPorts published, and_comm]
  rw [taken]
  exact isLeast_leastFree _ _

section

variable {α : Type} {x : Run α} {names : List Text}

/-- Other commands are no listing of ports. -/
lemma ne_portArgs_of_commands (other : ("ps" : Text) ∉ names) (asked : Commands names args) :
    args ≠ portArgs s := by
  rintro rfl
  exact Commands.not_of_not_mem other asked (.head _ _)

/-- The listing of ports has two filters for labels and none for states. -/
lemma filters_portArgs (s : Settings) :
    labelFilters (portArgs s) = [s.projectFilter .relay, s.portKey] ∧
      statusFilters (portArgs s) = [] := filters_toArgs (portQuery_toArgs s)

/-- The listing of stale containers is another one. -/
lemma staleArgs_ne_portArgs (service : Service) : staleArgs s service o ≠ portArgs s := by
  intro eq
  have status := (staleArgs_filters (s := s) rfl service o).1
  rw [eq, (filters_portArgs s).2] at status
  cases status

/-- So is the listing of names. -/
lemma nameArgs_ne_portArgs {service : Service}
    (h : Query.toArgs { labels := [s.projectFilter service] } = .ok args) : args ≠ portArgs s := by
  rintro rfl
  have labels := congrArg List.length ((filters_portArgs s).1.symm.trans (filters_toArgs h).1)
  exact absurd labels (Nat.succ_ne_self 1)

/-- What an operation that allocates leaves: the port that it comes to was allotted meanwhile. -/
def Allots (s : Settings) (binary : Text) (taken : Set Int) (events : List Event)
    (r : Except Failure Allocation) : Prop :=
  ∀ a, r = .ok a → ∃ port, a.port = some port ∧ Allotted s binary taken events port

/-- Whatever else is asked before, the port is allotted meanwhile. -/
lemma Leaves.allots_bind {f : α → Run Allocation} (hx : Composed (· ≠ portArgs s) x)
    (hf : ∀ b, Leaves binary (Allots s binary taken) (f b)) :
    Leaves binary (Allots s binary taken) (x >>= f) := by
  refine .bind (.ofAsks hx.asks) nofun fun before b earlier => (hf b).mono ?_
  intro events r allots a eq
  obtain ⟨port, chosen, allotted⟩ := allots a eq
  refine ⟨port, chosen, ?_⟩
  simpa using allotted.extend earlier (List.forall_mem_nil _)

end

/-- An attempt for which no port was asked is prepared with one that was allotted. -/
lemma prepareAttempt_allots (free : choosePort s o failed = allocatePort s failed) :
    Leaves binary (Allots s binary {n | n ∈ failed}) (prepareAttempt s .relay o failed) := by
  refine Leaves.allots_bind (removeStale_composed (staleArgs_ne_portArgs _) fun _ =>
    ne_portArgs_of_commands (by decide)) fun _ => ?_
  refine Leaves.allots_bind (allocateName_composed s .relay (fun _ => nameArgs_ne_portArgs)
    fun _ => ne_portArgs_of_commands (by decide)) fun name => ?_
  refine Leaves.allots_bind ((allocateAddress_composed s).mono fun _ =>
    ne_portArgs_of_commands (by decide)) fun address => ?_
  rw [free]
  refine .bind (allocatePort_allots s failed) nofun fun events port allotted =>
    .lift_bind (fun _ _ => nofun) fun _ _ => .pure ?_
  rintro _ ⟨⟩
  exact ⟨port, rfl, by simpa using allotted port rfl⟩

/-- The port of a round was allotted in its course, if none was asked for. -/
lemma Round.Made.allotted (made : t.Made s .relay o g failed σ σ')
    (free : choosePort s o failed = allocatePort s failed) (chosen : t.outcome.port = some port) :
    Allotted s σ.binary {n | n ∈ failed} t.events port := by
  obtain ⟨allocated, before, after, events, allots, ofAllocated, asks⟩ :=
    made.prepared (prepareAttempt_allots free)
  rcases allocated with e | a
  · cases chosen.symm.trans ofAllocated
  obtain ⟨port', chosen', allotted⟩ := allots a rfl
  have same : port' = port :=
    Option.some.inj ((chosen'.symm.trans ofAllocated.symm).trans chosen)
  rw [events, ← same]
  refine allotted.extend (List.forall_mem_nil _) fun e mem => ?_
  exact (asks e mem).mono fun _ asked => ne_portArgs_of_commands (by decide) asked.commands

/-! ## Attempts of a creation -/

/-- Without a fixed port, one is allocated. -/
lemma choosePort_free (h : o.fixedPort = none) (failed : List Int) :
    choosePort s o failed = allocatePort s failed := by
  rw [choosePort, h]

section

variable {retries : Nat} {rounds : List Round} {result : Except Failure Runner}

/-- In the rounds of a creation for which no port is asked, every container that is created
publishes a port that is taken by none of the rounds before. -/
lemma History.allotted (h : History s .relay o g retries [] σ rounds result σ')
    (fits : g.Fits .relay) (free : o.fixedPort = none) (k : Nat) (hk : k < rounds.length)
    (mem : e ∈ rounds[k].events) (creation : creation? e = some args) :
    ∃ port, Publishes s args port ∧ Allotted s σ.binary
      {n | ∃ t ∈ rounds.take k, Tries s t.events n} rounds[k].events port := by
  have tries : ∀ t ∈ rounds, ∀ n, Tries s t.events n ↔ t.outcome.port = some n :=
    h.forall_rounds fun _ course n => course.tries_iff fits
  obtain ⟨avoided, τ, τ', made, binary, ports⟩ := h.round k hk
  obtain ⟨id, a, _, prep, chosen, eq⟩ := made.course.of_creation mem creation
  obtain ⟨port, allocated, -⟩ := prep.fits.port rfl
  refine ⟨port, eq ▸ createArgs_publishes fits allocated, ?_⟩
  have taken : {n | n ∈ avoided} = {n | ∃ t ∈ rounds.take k, Tries s t.events n} := by
    ext n
    simp only [Set.mem_ofPred_eq, ports free n, List.not_mem_nil, false_or]
    exact exists_congr fun t => and_congr_right fun mem =>
      (tries t (List.mem_of_mem_take mem) n).symm
  rw [← taken, ← binary]
  exact made.allotted (choosePort_free free avoided) (chosen.trans allocated)

end

/-- A relay for which no port is asked publishes, in each attempt that creates a container, the
least port from the start port on that neither a relay listed in this attempt publishes nor an
earlier attempt has tried; so no port is tried twice. The options of the container agree with its
label, and when the creation succeeds, the port of its runner is the one that was published last. -/
theorem automatic_ports_fresh (s : Settings) (r : Runner) (σ : Session)
    (free : r.socketPort = none) :
    ∃ laid attempts, Attempted s .relay r σ laid attempts ∧
      (∀ k (hk : k < attempts.length), ∀ e ∈ attempts[k], ∀ args, creation? e = some args →
        ∃ port, Publishes s args port ∧ Allotted s σ.binary
          {n | ∃ earlier ∈ attempts.take k, Tries s earlier n} attempts[k] port) ∧
      attempts.Pairwise (fun events later => ∀ n, Tries s events n → ¬ Tries s later n) ∧
      ∀ result, (createRunner s .relay r σ).1 = .ok result → ∃ args port,
        lastCreation (laid ++ [.pause].intercalate attempts) = some args ∧
        Publishes s args port ∧ result.socketPort = some port := by
  obtain ⟨laid, rounds, attempted, made⟩ := createRunner_attempted s .relay r σ
  have fresh : ∀ k (hk : k < (rounds.map Round.events).length), ∀ e ∈ (rounds.map Round.events)[k],
      ∀ args, creation? e = some args → ∃ port, Publishes s args port ∧ Allotted s σ.binary
        {n | ∃ earlier ∈ (rounds.map Round.events).take k, Tries s earlier n}
        (rounds.map Round.events)[k] port := by
    intro k hk e mem args creation
    rcases made with rfl | ⟨o, g, σ₁, order, fits, binary, history⟩
    · exact absurd hk (Nat.not_lt_zero k)
    · rw [List.getElem_map] at mem ⊢
      rw [List.length_map] at hk
      rw [← List.map_take, ← binary]
      simp only [List.mem_map, exists_exists_and_eq_and]
      exact history.allotted fits ((fixedPort_of_relay order).trans free) k hk mem creation
  refine ⟨laid, rounds.map Round.events, attempted, fresh, ?_, fun result succeeded => ?_⟩
  · -- a port that a later attempt tries is free of those that were tried before
    refine List.pairwise_iff_getElem.mpr fun j k hj hk less n tried again => ?_
    obtain ⟨e, mem, args, creation, publishes⟩ := again
    obtain ⟨port, publishes', found, -, least⟩ := fresh k hk e mem args creation
    rw [publishes.unique publishes'] at tried
    exact least.1.2.2 ⟨_, List.mem_take_iff_getElem.mpr ⟨j, by omega, rfl⟩, tried⟩
  · obtain ⟨o, g, id, container, a, events, -, -, fits, allocated, rfl, log, last⟩ :=
      createRunner_creates (Prod.ext succeeded rfl)
    obtain ⟨port, chosen, -⟩ := allocated.port rfl
    obtain rfl := List.append_cancel_left (attempted.log.symm.trans log)
    exact ⟨_, port, last, createArgs_publishes fits chosen, chosen⟩

namespace Sample

/-- A template for a relay that asks for no port. -/
def relayTemplate : Runner :=
  .template .relay (.many
    [some ⟨.str "identity", [("id", .str "1")]⟩, some ⟨.str "provider", [("id", .str "2")]⟩,
     some ⟨.str "proxy-upstream", [("id", .str "3")]⟩])

/-- What docker shows of the node of the identity. -/
def nodeDocument : String :=
  "[\x7b\"Id\":\"5c\",\"Name\":\"/myst-1\",\"NetworkSettings\":\x7b\"Networks\":" ++
    "\x7b\"network-mysterium-proxy-main\":\x7b\"IPAddress\":\"10.0.0.2\"\x7d\x7d\x7d\x7d]"

/-- What docker shows of a relay that publishes a port. -/
def publishingDocument : String :=
  "[\x7b\"Id\":\"6a\",\"Name\":\"/socat-1\",\"Config\":\x7b\"Labels\":" ++
    "\x7b\"com.mysterium-proxy.publish-port\":\"3128\"\x7d\x7d\x7d]"

/-- A session with a relay that publishes the start port, in which another process holds the next
port. -/
def relaySession : Session where
  binary := "docker"
  answers :=
    [("ps", [⟨"5c\n".toUTF8, .empty, 0⟩, {}, ⟨"6a\n".toUTF8, .empty, 0⟩,
       ⟨"6a\n".toUTF8, .empty, 0⟩, {}, ⟨"6a\n".toUTF8, .empty, 0⟩]),
     ("inspect", [⟨nodeDocument.toUTF8, .empty, 0⟩, ⟨publishingDocument.toUTF8, .empty, 0⟩]),
     ("network", [⟨networkDocument.toUTF8, .empty, 0⟩]),
     ("create", [⟨"7c\n".toUTF8, .empty, 0⟩, ⟨"7d\n".toUTF8, .empty, 0⟩]),
     ("start", [⟨.empty, "Port is already allocated".toUTF8, 1⟩, {}])]
  log := []
  issued := 0

/-- What the containers that were created in a session publish. -/
def publications (σ : Session) : List (Option Text) :=
  (σ.log.filterMap creation?).map fun args => optionValue? "-p" (readOptions args)

end Sample

/-- The two attempts of that session publish different ports, the second of which is the port of the
runner. -/
theorem sample_ports_fresh :
    ∃ result σ', createRunner Sample.settings .relay Sample.relayTemplate Sample.relaySession =
        (.ok result, σ') ∧
      Sample.publications σ' =
        [some ("3129:1234/tcp" : Text), some ("3130:1234/tcp" : Text)] ∧
      ∃ laid attempts args, Attempted Sample.settings .relay Sample.relayTemplate
          Sample.relaySession laid attempts ∧
        attempts.Pairwise (fun events later => ∀ n, Tries Sample.settings events n →
          ¬ Tries Sample.settings later n) ∧
        lastCreation (laid ++ [.pause].intercalate attempts) = some args ∧
        Publishes Sample.settings args 3130 ∧ result.socketPort = some 3130 := by
  obtain ⟨laid, attempts, attempted, -, distinct, last⟩ :=
    automatic_ports_fresh Sample.settings Sample.relayTemplate Sample.relaySession rfl
  have ran : ((createRunner Sample.settings .relay Sample.relayTemplate
        Sample.relaySession).1.toOption.map (·.socketPort),
      Sample.publications (createRunner Sample.settings .relay Sample.relayTemplate
        Sample.relaySession).2) =
      (some (some 3130), [some ("3129:1234/tcp" : Text), some ("3130:1234/tcp" : Text)]) := by
    decide +kernel
  rcases ended : createRunner Sample.settings .relay Sample.relayTemplate Sample.relaySession
    with ⟨e | result, σ'⟩
  · rw [ended] at ran
    cases (Prod.mk.inj ran).1
  rw [ended] at ran
  have port : result.socketPort = some 3130 := Option.some.inj (Prod.mk.inj ran).1
  obtain ⟨args, n, created, publishes, socket⟩ := last result (by rw [ended])
  obtain rfl : n = 3130 := Option.some.inj (socket.symm.trans port)
  exact ⟨result, σ', rfl, (Prod.mk.inj ran).2, laid, attempts, args, attempted, distinct, created,
    publishes, port⟩

end ProxyFleet.Creation
