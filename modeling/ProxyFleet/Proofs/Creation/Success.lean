import ProxyFleet.Proofs.Creation.History

/-!
# Creations that succeed

What is known of a creation that has given a runner: the order, the groundwork and the allocation
that the runner was made from, each of the kind that its service needs, and that the container of
the runner is the last one that docker was told to create.
-/

namespace ProxyFleet.Creation
open Docker

variable {s : Settings} {service : Service} {o : Order} {g : Groundwork} {failed : List Int}
  {r result : Runner} {ended : Except Failure Runner} {retries : Nat} {rounds : List Round}
  {σ σ' : Session}

/-! ## Orders -/

/-- A field that is required was supplied. -/
lemma requireFields_ok {m : Model} {names : List Text} {name : Text}
    (h : requireFields m names = .ok ()) (mem : name ∈ names)
    (known : name ∈ m.owner.fields.map Field.name) : (Keyed.get? name m.supplied).isSome := by
  unfold requireFields at h
  split at h
  case h_1 none =>
    have given : m.isDefault name = false :=
      Bool.eq_false_iff.mpr (List.filter_eq_nil_iff.mp none name mem)
    rw [Option.isSome_iff_ne_none]
    simpa [Model.isDefault, Model.defaults, known, Keyed.has] using given
  case h_2 => cases h

/-- The model that is found is one of the list, and of the owner. -/
lemma find_ok {ms : List Model} {owner : Owner} {m : Model} (h : Model.find ms owner = .ok m) :
    m ∈ ms ∧ m.owner = owner := by
  unfold Model.find at h
  split at h
  case h_1 found =>
    cases h
    exact ⟨List.mem_of_find?_eq_some found, by simpa using List.find?_some found⟩
  case h_2 => cases h

/-- Whether an order has its template and the models of its label, which name an identity by its
`id`. -/
structure Order.Faithful (r : Runner) (o : Order) : Prop where
  template : o.template = r
  models : r.label.read = .ok o.models
  identity : ∃ m ∈ o.models, m.owner = .identity ∧ (Keyed.get? ("id" : Text) m.supplied).isSome

/-- An order has its template, the models of the template's label, and the first identity of these,
whose `id` was supplied. -/
lemma Order.ofTemplate_ok (h : Order.ofTemplate service r = .ok o) :
    o.template = r ∧ r.label.read = .ok o.models ∧ Model.find o.models .identity = .ok o.identity ∧
      (Keyed.get? ("id" : Text) o.identity.supplied).isSome := by
  obtain ⟨models, read, h⟩ := bind_eq_ok.mp h
  have named : ∀ {identity : Model} {names : List Text},
      Model.find models .identity = .ok identity → requireFields identity names = .ok () →
      ("id" : Text) ∈ names → (Keyed.get? ("id" : Text) identity.supplied).isSome := by
    intro identity names found required mem
    refine requireFields_ok required mem ?_
    rw [(find_ok found).2]
    decide
  cases service with
  | identity =>
    obtain ⟨identity, found, h⟩ := bind_eq_ok.mp h
    obtain ⟨_, required, h⟩ := bind_eq_ok.mp h
    split at h
    · cases h
    · cases h
      exact ⟨rfl, read, found, named found required (by decide)⟩
  | connector =>
    obtain ⟨identity, found, h⟩ := bind_eq_ok.mp h
    obtain ⟨_, required, h⟩ := bind_eq_ok.mp h
    obtain ⟨provider, -, h⟩ := bind_eq_ok.mp h
    obtain ⟨_, -, h⟩ := bind_eq_ok.mp h
    split at h
    · cases h
    · cases h
      exact ⟨rfl, read, found, named found required (by decide)⟩
  | relay =>
    obtain ⟨identity, found, h⟩ := bind_eq_ok.mp h
    obtain ⟨_, required, h⟩ := bind_eq_ok.mp h
    obtain ⟨provider, -, h⟩ := bind_eq_ok.mp h
    obtain ⟨_, -, h⟩ := bind_eq_ok.mp h
    obtain ⟨listener, -, h⟩ := bind_eq_ok.mp h
    obtain ⟨_, -, h⟩ := bind_eq_ok.mp h
    cases h
    exact ⟨rfl, read, found, named found required (by decide)⟩

/-- The labels of an order's identity can always be written, as all fields of an identity are
texts. -/
lemma identity_written (h : Order.ofTemplate service r = .ok o) (p : Text)
    (excluded : List Text) : Model.writeOf p excluded o.models .identity =
      .ok (o.identity.flat p excluded) := by
  obtain ⟨-, read, found, -⟩ := Order.ofTemplate_ok h
  obtain ⟨mem, owner⟩ := find_ok found
  refine Model.writeOf_eq_ok.mpr ⟨⟨_, found, fun q supplied _ => ?_⟩, map_eq_ok.mpr ⟨_, found, rfl⟩⟩
  obtain ⟨f, known, -, kind⟩ := (Label.wellFormed_of_read read _ mem).typed q supplied
  have texts : ∀ f ∈ Owner.identity.fields, f.kind = .text := by decide
  rw [texts f (owner ▸ known)] at kind
  rcases q with ⟨_, _ | _ | _⟩
  · trivial
  · cases kind
  · trivial

/-- An order is faithful to its template. -/
lemma Order.Faithful.ofTemplate (h : Order.ofTemplate service r = .ok o) : Order.Faithful r o := by
  obtain ⟨template, read, found, named⟩ := Order.ofTemplate_ok h
  obtain ⟨mem, owner⟩ := find_ok found
  exact ⟨template, read, o.identity, mem, owner, named⟩

/-! ## Groundwork and allocation -/

/-- Whether groundwork is what the containers of a service build on. -/
def Groundwork.Fits : Service → Groundwork → Prop
  | .identity, .keystore _ => True
  | .connector, .node _ => True
  | .relay, .address _ => True
  | _, _ => False

/-- Groundwork that is laid fits its service. -/
lemma layGroundwork_yields (s : Settings) (service : Service) (o : Order) :
    Yields (Groundwork.Fits service) (layGroundwork s service o) := by
  cases service with
  | identity =>
    refine .bind (.any _) fun found _ => ?_
    split
    · exact .pure trivial
    · exact .bind (.any _) fun _ _ => .bind (.any _) fun _ _ => .bind (.any _) fun _ _ =>
        .pure trivial
  | connector => exact .bind (.any _) fun _ _ => .pure trivial
  | relay =>
    refine .bind (.any _) fun _ _ => ?_
    split
    · split
      · exact .throw _
      · exact .pure trivial
    · exact .throw _

/-- Whether an allocation has what the containers of a service need. -/
structure Allocation.Fits (s : Settings) (service : Service) (a : Allocation) : Prop where
  name : ∃ n : Int, a.name = s.namePrefix service ++ "-" ++ Text.numeral n
  address : service ≠ .connector → ∃ address, a.address = some address
  port : service = .relay → ∃ port, a.port = some port ∧ Text.hasNumeral port

/-- A number that passes the check is unchanged and has a numeral. -/
lemma writable_ok {n k : Int} (h : writable n = .ok k) : k = n ∧ Text.hasNumeral k := by
  unfold writable at h
  split at h
  case isTrue can => cases h; exact ⟨rfl, can⟩
  case isFalse => cases h

/-- A port that is chosen has a numeral. -/
lemma choosePort_yields (s : Settings) (o : Order) (failed : List Int) :
    Yields (fun port => Text.hasNumeral port) (choosePort s o failed) := by
  have allocated : Yields (fun port => Text.hasNumeral port) (allocatePort s failed) :=
    .bind (.any _) fun _ _ => .bind (.any _) fun _ _ => .lift fun _ writes => (writable_ok writes).2
  unfold choosePort
  split
  · split
    · exact allocated
    · exact .lift fun _ writes => (writable_ok writes).2
  · exact allocated

/-- Everything that a service needs is allocated. -/
lemma allocate_yields (s : Settings) (service : Service) (o : Order) (failed : List Int) :
    Yields (Allocation.Fits s service) (allocate s service o failed) := by
  have named : Yields (fun name => ∃ n : Int, name = s.namePrefix service ++ "-" ++ Text.numeral n)
      (allocateName s service) :=
    .bind (.any _) fun _ _ => .bind (.any _) fun n _ => .pure ⟨n, rfl⟩
  refine .bind named fun name named => ?_
  cases service with
  | connector => exact .bind (.any _) fun _ _ => .pure ⟨named, fun h => absurd rfl h, nofun⟩
  | identity =>
    exact .bind (.any _) fun address _ => .pure ⟨named, fun _ => ⟨address, rfl⟩, nofun⟩
  | relay =>
    exact .bind (.any _) fun address _ => .bind (choosePort_yields s o failed) fun port can =>
      .bind (.any _) fun _ _ => .pure ⟨named, fun _ => ⟨address, rfl⟩, fun _ => ⟨port, rfl, can⟩⟩

/-- An attempt is prepared with everything that its service needs. -/
lemma prepareAttempt_yields (s : Settings) (service : Service) (o : Order) (failed : List Int) :
    Yields (Allocation.Fits s service) (prepareAttempt s service o failed) :=
  .bind (.any _) fun _ _ => allocate_yields s service o failed

/-- What an attempt was prepared with fits its service. -/
lemma Preparation.fits {a : Allocation} {events : List Event}
    (prep : Preparation s service o failed σ (.ok a) events) : a.Fits s service :=
  prepareAttempt_yields s service o failed σ a prep.ended

/-! ## The container of the runner -/

/-- The arguments of a call that creates a container. -/
def creation? : Event → Option (List Text)
  | .call (_ :: command :: args) _ => if command = "create" then some args else none
  | _ => none

/-- The arguments of the last call that created a container. -/
def lastCreation (log : List Event) : Option (List Text) := log.reverse.findSome? creation?

/-- The last creation stays the last, whatever came before. -/
lemma lastCreation_append {args : List Text} {events : List Event}
    (h : lastCreation events = some args) (before : List Event) :
    lastCreation (before ++ events) = some args := by
  unfold lastCreation at h ⊢
  rw [List.reverse_append, List.findSome?_append, h]
  rfl

/-- The last round of a history decides how it ends, and its events are the last of the log. -/
lemma History.last (h : History s service o g retries failed σ rounds ended σ') :
    ∃ failed σ₁ t before, Course s service o g failed σ₁ t ∧
      σ'.log = σ.log ++ (before ++ t.events) ∧ ended = t.verdict service := by
  induction h with
  | stop made _ => exact ⟨_, _, _, [], made.course, made.log, rfl⟩
  | @again _ _ _ first _ _ _ _ made _ _ ih =>
    obtain ⟨failed, σ₁, t, before, course, log, verdict⟩ := ih
    refine ⟨failed, σ₁, t, first.events ++ [.pause] ++ before, course, ?_, verdict⟩
    rw [log, Session.paused, made.log]
    simp only [List.append_assoc]

/-- A round that ended well had the labels of the owners written, and started the container that it
created last. -/
lemma Course.of_verdict_ok {t : Round} (course : Course s service o g failed σ t)
    (h : t.verdict service = .ok result) :
    o.Writable ∧ ∃ id container a, a.Fits s service ∧
      result = runnerOf s service o id container a ∧
      lastCreation t.events = some ((createArgs s o g id a).drop 1) := by
  cases course with
  | unwritten | unprepared | refused | nameless => cases h
  | @removed a out e removal => cases removal <;> cases h
  | started prep =>
    cases h
    refine ⟨prep.written, _, _, _, prep.fits, rfl, ?_⟩
    -- the start of the container comes after its creation and is no creation itself
    exact lastCreation_append rfl _

/-- A creation that succeeds has made its runner from an order that can be written, its groundwork
and an allocation, and it has told docker to create no further container. -/
lemma createRunner_creates (h : createRunner s service r σ = (.ok result, σ')) :
    ∃ o g id container a events, Order.Faithful r o ∧ o.Writable ∧ g.Fits service ∧
      a.Fits s service ∧
      result = runnerOf s service o id container a ∧ σ'.log = σ.log ++ events ∧
      lastCreation events = some ((createArgs s o g id a).drop 1) := by
  rcases order : Order.ofTemplate service r with e | o
  · cases (createRunner_refused order).symm.trans h
  rcases ground : layGroundwork s service o σ with ⟨e | g, σ₁⟩
  · cases (createRunner_ungrounded order ground).symm.trans h
  have fits : g.Fits service := layGroundwork_yields s service o σ g (by rw [ground])
  obtain ⟨laid, grew⟩ := (layGroundwork_composed s service o).asks σ
  rw [ground] at grew
  have made := (createRunner_attempts order ground).symm.trans h
  obtain ⟨rounds, history⟩ := exists_history s service o g (s.maxAttempts - 1).toNat [] σ₁
  rw [made] at history
  obtain ⟨failed, σ₂, t, before, course, log, verdict⟩ := history.last
  obtain ⟨written, id, container, a, allocated, eq, last⟩ := course.of_verdict_ok verdict.symm
  refine ⟨o, g, id, container, a, laid ++ (before ++ t.events), .ofTemplate order, written, fits,
    allocated, eq, ?_, lastCreation_append (lastCreation_append last _) _⟩
  rw [log, grew.log, List.append_assoc]

/-- Docker was told to create the container of the runner last. -/
lemma createRunner_ok (h : createRunner s service r σ = (.ok result, σ')) :
    ∃ o g id container a, Order.Faithful r o ∧ o.Writable ∧ g.Fits service ∧ a.Fits s service ∧
      result = runnerOf s service o id container a ∧
      lastCreation σ'.log = some ((createArgs s o g id a).drop 1) := by
  obtain ⟨o, g, id, container, a, events, faithful, written, fits, allocated, eq, log, last⟩ :=
    createRunner_creates h
  exact ⟨o, g, id, container, a, faithful, written, fits, allocated, eq,
    log ▸ lastCreation_append last _⟩

end ProxyFleet.Creation
