import ProxyFleet.Proofs.Creation.Discovered
import ProxyFleet.Proofs.Creation.Requests
import ProxyFleet.Proofs.Discovery.Queries
import ProxyFleet.Proofs.Label.Rereading

/-!
# Containers are matched by later queries

The labels of a container are written once, when it is created, and looked for in many places: by
later creations of the same template, by those that need its node, and by discovery. Every label
that any of these asks for is among those that the container was created with.
-/

namespace ProxyFleet.Creation
open Docker Discovery

variable {s s' : Settings} {service service' : Service} {o o' : Order} {g : Groundwork}
  {id key v : Text} {a : Allocation} {r r' : Runner} {f : Filter} {q : Query}
  {args : List Text} {R : List Text → Prop} {σ σ' : Session}

/-! ## Labels of a create command -/

/-- The labels among the arguments that create a container, each as `key=value`. -/
def givenLabels (args : List Text) : List Text :=
  ((readOptions args).filter fun option => option.1 == ("--label" : Text)).map Prod.snd

/-- A label of the specification is given to the container. -/
lemma mem_givenLabels (h : Keyed.get? key (specOf s o g id a).labels = some v) :
    assignment (key, v) ∈ givenLabels ((createArgs s o g id a).drop 1) := by
  have mem : assignment (key, v) ∈ (specOf s o g id a).labels.map assignment :=
    List.mem_map_of_mem (Keyed.mem_of_get? h)
  have option : (("--label" : Text), assignment (key, v)) ∈ (specOf s o g id a).options := by
    have given : (("--label" : Text), assignment (key, v)) ∈
        given "--label" ((specOf s o g id a).labels.map assignment) := List.mem_map_of_mem mem
    simp [Spec.options, given]
  unfold givenLabels createArgs
  rw [Spec.readOptions_toArgs]
  refine List.mem_map.mpr ⟨_, List.mem_filter.mpr ⟨List.mem_append_left _ option, ?_⟩, rfl⟩
  simp

/-- A relay publishes the port of its allocation, and its label says so. -/
lemma port_given (fits : g.Fits .relay) :
    optionValue? "-p" (readOptions ((createArgs s o g id a).drop 1)) =
        some (published (a.port.getD 0, s.relay.privatePort)) ∧
      assignment (s.portKey, Text.numeral (a.port.getD 0)) ∈
        givenLabels ((createArgs s o g id a).drop 1) := by
  refine ⟨?_, mem_givenLabels (specOf_port fits)⟩
  unfold createArgs
  rw [Spec.readOptions_toArgs]
  apply Spec.optionValue?_port
  cases g <;> first | exact fits.elim | rfl

namespace Marked

variable (marked : Marked s service o id (specOf s o g id a).labels)

include marked

/-- The container is given the identifier of its runner. -/
lemma id_given : s.key "id" ++ "=" ++ id ∈ givenLabels ((createArgs s o g id a).drop 1) :=
  mem_givenLabels marked.id

/-- It is given the project of its service. -/
lemma project_given : s.projectFilter service ∈ givenLabels ((createArgs s o g id a).drop 1) :=
  mem_givenLabels marked.project

/-- It is given the labels of its owners. -/
lemma field_given {owner : Owner} {f : Field} (known : f ∈ owner.fields)
    (h : Keyed.get? (fieldKey s.docker.keyPrefix owner f.name) (s.ownerLabels o) = some v) :
    assignment (fieldKey s.docker.keyPrefix owner f.name, v) ∈
      givenLabels ((createArgs s o g id a).drop 1) :=
  mem_givenLabels ((marked.fields known).trans h)

/-- The labels that the listing of the containers of an order asks for. -/
lemma owners_given (wf : ∀ m ∈ o.models, m.WellFormed) :
    s.projectFilter service :: (s.ownerLabels o).map assignment ⊆
      givenLabels ((createArgs s o g id a).drop 1) := by
  refine List.cons_subset.mpr ⟨marked.project_given, fun label mem => ?_⟩
  obtain ⟨⟨key, v⟩, owned, rfl⟩ := List.mem_map.mp mem
  have written : Keyed.get? key (s.ownerLabels o) = some v :=
    Keyed.get?_of_mem (Model.nodup_flatAll _ _ _) owned
  obtain ⟨m, -, f, known, -, -, -, rfl, -⟩ := Model.exists_of_get?_flatAll wf written
  exact marked.field_given known written

end Marked

/-- The `id` of an identity that no other entry of the label repeats. -/
lemma Marked.identity_given (marked : Marked s service o id (specOf s o g id a).labels)
    (order : Order.ofTemplate service r = .ok o) (distinct : (o.models.map Model.owner).Nodup) :
    assignment (fieldKey s.docker.keyPrefix .identity "id", o.identity.text "id") ∈
      givenLabels ((createArgs s o g id a).drop 1) := by
  obtain ⟨-, read, found, supplied⟩ := Order.ofTemplate_ok order
  obtain ⟨mem, owner⟩ := find_ok found
  have wf := Label.wellFormed_of_read read
  obtain ⟨x, supplied⟩ := Option.isSome_iff_exists.mp supplied
  have known : (⟨"id", .text⟩ : Field) ∈ Owner.identity.fields := by decide
  have written : Keyed.get? (fieldKey s.docker.keyPrefix o.identity.owner "id")
      (s.ownerLabels o) = _ :=
    Model.get?_flatAll_of_distinct wf distinct mem (owner.symm ▸ known)
  rw [if_neg (by decide), supplied, owner] at written
  rw [(wf _ mem).text_eq (Keyed.mem_of_get? supplied)]
  exact marked.field_given known written

/-- The listing of the node asks for the `id` of the identity and for none of its other fields. -/
lemma node_labels {labels : List (Text × Text)} (order : Order.ofTemplate service r = .ok o)
    (h : Model.writeOf s.docker.keyPrefix ("identity" :: secretFields) o.models .identity =
      .ok labels) : ∀ p ∈ labels,
    p = (fieldKey s.docker.keyPrefix .identity "id", o.identity.text "id") := by
  obtain ⟨-, read, found, -⟩ := Order.ofTemplate_ok order
  obtain ⟨mem, owner⟩ := find_ok found
  obtain ⟨m, found', rfl⟩ := map_eq_ok.mp (Model.writeOf_eq_ok.mp h).2
  cases found.symm.trans found'
  rintro ⟨key, v⟩ written
  obtain ⟨⟨name, x⟩, supplied, kept, rfl, rfl⟩ := Model.mem_flat.mp written
  have wf := Label.wellFormed_of_read read _ mem
  obtain ⟨f, known, rfl, -⟩ := wf.typed _ supplied
  have only : ∀ f ∈ Owner.identity.fields, f.name ∉ ("identity" : Text) :: secretFields →
      f.name = "id" := by decide
  have named := only f (owner ▸ known) kept
  rw [named] at supplied
  rw [owner, named, wf.text_eq supplied]

/-! ## Listings of an operation -/

/-- Whether the arguments of all listings that an operation asks for, in whatever session, satisfy a
predicate. -/
def Listings {α : Type} (R : List Text → Prop) (x : Run α) : Prop :=
  ∀ σ, ∃ events, (x σ).2.log = σ.log ++ events ∧
    ∀ e ∈ events, ∀ args, listing? e = some args → R args

/-- What an operation may ask for bounds its listings. -/
lemma Confines.listings {α : Type} {P : List Text → Prop} {x : Run α}
    (h : ∀ binary, Confines binary P x) (each : ∀ args, P args → Commands ["ps"] args → R args) :
    Listings R x := by
  intro σ
  obtain ⟨events, -, log, confined⟩ := h σ.binary σ rfl
  refine ⟨events, log, fun e mem args found => ?_⟩
  rcases confined e mem with rfl | asks
  · cases found
  · obtain ⟨asked, lists⟩ := asks.of_listing? found
    exact each args asked lists

/-- A creation lists the containers that were never started, and others for its preparation. -/
lemma createRunner_listings (stale : ∀ o, Order.ofTemplate service r = .ok o →
      R (staleArgs s service o))
    (others : ∀ o q args, Order.ofTemplate service r = .ok o → Lists s service o q →
      q.toArgs = .ok args → R args) : Listings R (createRunner s service r) := by
  rcases order : Order.ofTemplate service r with e | o
  · intro σ
    rw [createRunner_refused order]
    exact ⟨[], by simp, fun e mem => absurd mem List.not_mem_nil⟩
  · refine Confines.listings (fun _ => createRunner_confines order) fun args asked lists => ?_
    rcases asked.listing lists with rfl | ⟨q, listed, asked⟩
    · exact stale o order
    · exact others o q args order listed asked

/-- Runners of a service with a label are listed by the project and the owners of the label. -/
lemma getAll_listings {c c' : Condition} {models : List Model} (read : r.label.read = .ok models)
    (kind : f.condition? "service" = some c) (named : c.operand = .json (.str service.name))
    (owner : f.condition? "label" = some c') (labelled : c'.operand = .label r.label) :
    Listings (fun args => labelFilters args = s.projectFilter service ::
      (Model.flatAll s.docker.keyPrefix secretFields models).map assignment) (getAll s f) := by
  refine Confines.listings (P := fun args => ∃ q, queryOf? s f = .ok (some q) ∧ Finding q args)
    (fun _ => (Leaves.ofAsks (getAll_asks s f)).mono fun _ _ asks e mem => .inr (asks e mem)) ?_
  rintro args ⟨q, query, asked⟩ lists
  obtain ⟨project, owners, states, projects, owned, -, rfl⟩ := queryOf?_some query
  rw [(filters_toArgs (asked.toArgs lists)).1]
  unfold projectFilter? at projects
  simp only [kind, named, Operand.asJson, Service.ofJson?_name] at projects
  simp only [ownerFilters?, owner, labelled, Operand.asLabel, read] at owned
  cases projects
  obtain ⟨labels, written, rfl⟩ := Option.map_eq_some_iff.mp (Except.ok.inj owned)
  obtain ⟨-, rfl⟩ := Model.writeAll_eq_ok.mp (toOption_eq_some.mp written)
  rfl

/-! ## Matching -/

/-- Whether labels pass a filter: it is one of them, or the key of one. -/
def Passes (labels : List Text) (filter : Text) : Prop :=
  filter ∈ labels ∨ ∃ value, filter ++ "=" ++ value ∈ labels

/-- Whether a container that was created for a template with the given arguments is matched by all
listings that may look for it. -/
structure Matched (s : Settings) (service : Service) (r : Runner) (args : List Text) : Prop where
  /-- A later creation of the template finds it if it was never started. -/
  stale : ∀ s', s'.docker = s.docker → Listings (fun asked => statusFilters asked = ["created"] →
    labelFilters asked ⊆ givenLabels args) (createRunner s' service r)
  project : s.projectFilter service ∈ givenLabels args
  /-- Every later creation of the service counts its name, and its port if it is a relay. -/
  counted : ∀ s' r', s'.docker = s.docker → Listings (fun asked => statusFilters asked = [] →
    ∀ filter ∈ labelFilters asked, Passes (givenLabels args) filter) (createRunner s' service r')
  port : service = .relay → ∃ port,
    optionValue? "-p" (readOptions args) = some (published (port, s.relay.privatePort)) ∧
      assignment (s.portKey, Text.numeral port) ∈ givenLabels args
  /-- Discovery lists it by its service and the label of its template. -/
  listed : ∀ s' f c c', s'.docker = s.docker → f.condition? "service" = some c →
    c.operand = .json (.str service.name) → f.condition? "label" = some c' →
    c'.operand = .label r.label →
    Listings (fun asked => labelFilters asked ⊆ givenLabels args) (getAll s' f)
  /-- A creation that needs the node of its identity finds it. -/
  node : service = .identity → ∀ o, Order.ofTemplate service r = .ok o →
    (o.models.map Model.owner).Nodup → ∀ s' service' r' o', s'.docker = s.docker →
    Order.ofTemplate service' r' = .ok o' →
    o'.identity.text "id" = o.identity.text "id" →
    Listings (fun asked => statusFilters asked = ["running"] →
      labelFilters asked ⊆ givenLabels args) (createRunner s' service' r')

/-! ### Settings with the same prefix -/

section

variable (same : s'.docker = s.docker)

include same

/-- Settings of one prefix have the same project filter. -/
lemma projectFilter_eq (service : Service) :
    s'.projectFilter service = s.projectFilter service := by
  simp only [Settings.projectFilter, Settings.key, same]

/-- They have the same key for the published port. -/
lemma portKey_eq : s'.portKey = s.portKey := by
  simp only [Settings.portKey, Settings.key, same]

/-- They write the same labels of owners. -/
lemma ownerLabels_eq (o : Order) : s'.ownerLabels o = s.ownerLabels o := by
  simp only [Settings.ownerLabels, same]

/-- Stale containers are listed by their state, their project and the labels of their owners. -/
lemma staleArgs_filters (service : Service) (o : Order) :
    statusFilters (staleArgs s' service o) = ["created"] ∧ labelFilters (staleArgs s' service o) =
      s.projectFilter service :: (s.ownerLabels o).map assignment := by
  obtain ⟨labels, status⟩ := filters_toArgs (staleQuery_toArgs s' service o)
  refine ⟨status, labels.trans ?_⟩
  rw [staleQuery, projectFilter_eq same, ownerLabels_eq same]

end

/-! ### Every listing -/

section

variable (fits : g.Fits service) (order : Order.ofTemplate service r = .ok o)
  (same : s'.docker = s.docker)

include fits order

/-- The labels of the container of an order mark it. -/
lemma order_marked : Marked s service o id (specOf s o g id a).labels :=
  specOf_marked fits (Label.wellFormed_of_read (Order.ofTemplate_ok order).2.1)

include same in
/-- The listings of stale containers ask for labels that the container is given. -/
lemma stale_listings : Listings (fun asked => statusFilters asked = ["created"] →
    labelFilters asked ⊆ givenLabels ((createArgs s o g id a).drop 1))
    (createRunner s' service r) := by
  refine createRunner_listings (fun o' order' _ => ?_) fun o' q args _ lists toArgs created => ?_
  · cases order.symm.trans order'
    rw [(staleArgs_filters same service o).2]
    exact (order_marked fits order).owners_given
      (Label.wellFormed_of_read (Order.ofTemplate_ok order).2.1)
  · rw [(filters_toArgs toArgs).2] at created
    rcases lists.status with status | status <;>
      exact absurd (status.symm.trans created) (by decide)

include same in
/-- The listings that count names and ports ask for nothing that the container does not pass. -/
lemma counting_listings (r' : Runner) : Listings (fun asked => statusFilters asked = [] →
    ∀ filter ∈ labelFilters asked, Passes (givenLabels ((createArgs s o g id a).drop 1)) filter)
    (createRunner s' service r') := by
  have marked : Marked s service o id (specOf s o g id a).labels := order_marked fits order
  refine createRunner_listings (fun o' _ all => ?_) fun o' q args _ lists toArgs all => ?_
  · exact absurd ((staleArgs_filters same service o').1.symm.trans all) (by decide)
  · rw [(filters_toArgs toArgs).1]
    rw [(filters_toArgs toArgs).2] at all
    cases lists with
    | node => exact absurd all (List.cons_ne_nil _ _)
    | names =>
      intro filter mem
      rw [List.mem_singleton.mp mem, projectFilter_eq same]
      exact .inl marked.project_given
    | ports relay =>
      subst relay
      intro filter mem
      rcases List.mem_pair.mp mem with rfl | rfl
      · rw [projectFilter_eq same]
        exact .inl marked.project_given
      · rw [portKey_eq same]
        exact .inr ⟨_, mem_givenLabels (specOf_port fits)⟩

include same in
/-- The listings that look for a node ask for labels that its container is given. -/
lemma node_listings (identity : service = .identity) (distinct : (o.models.map Model.owner).Nodup)
    (order' : Order.ofTemplate service' r' = .ok o')
    (id_eq : o'.identity.text "id" = o.identity.text "id") :
    Listings (fun asked => statusFilters asked = ["running"] →
      labelFilters asked ⊆ givenLabels ((createArgs s o g id a).drop 1))
      (createRunner s' service' r') := by
  have marked : Marked s service o id (specOf s o g id a).labels := order_marked fits order
  refine createRunner_listings (fun o₁ _ running => ?_)
    fun o₁ q args order₁ lists toArgs running => ?_
  · exact absurd ((staleArgs_filters same service' o₁).1.symm.trans running) (by decide)
  · cases order'.symm.trans order₁
    rw [(filters_toArgs toArgs).1]
    rw [(filters_toArgs toArgs).2] at running
    cases lists with
    | names | ports => exact absurd running (List.cons_ne_nil _ _).symm
    | node _ labels =>
      refine List.cons_subset.mpr ⟨?_, fun label mem => ?_⟩
      · rw [projectFilter_eq same, ← identity]
        exact marked.project_given
      · obtain ⟨p, written, rfl⟩ := List.mem_map.mp mem
        rw [node_labels order' labels p written, id_eq, same]
        exact marked.identity_given order distinct

/-- Whatever is created for a template is matched by all later listings that may look for it. -/
lemma matched : Matched s service r ((createArgs s o g id a).drop 1) where
  stale s' same := stale_listings fits order same
  project := (order_marked fits order).project_given
  counted s' r' same := counting_listings fits order same r'
  port relay := by
    subst relay
    exact ⟨_, port_given fits⟩
  listed s' f c c' same kind named owner labelled := by
    have read := (Order.ofTemplate_ok order).2.1
    have marked : Marked s service o id (specOf s o g id a).labels := order_marked fits order
    intro σ
    obtain ⟨events, log, each⟩ := getAll_listings (s := s') read kind named owner labelled σ
    refine ⟨events, log, fun e mem asked listed => ?_⟩
    have asks : labelFilters asked = _ := each e mem asked listed
    show labelFilters asked ⊆ _
    rw [asks, projectFilter_eq same, same]
    exact marked.owners_given (Label.wellFormed_of_read read)
  node identity o₁ order₁ distinct s' service' r' o' same order' id_eq := by
    cases order.symm.trans order₁
    exact node_listings fits order same identity distinct order' id_eq

end

/-- Looking a runner up begins with the listing of the containers that have its identifier. -/
lemma getById_listing (s : Settings) (id : Text) (τ : Session) : ∃ asked reply rest,
    (getById s id τ).2.log = τ.log ++ .call (τ.binary :: asked) reply :: rest ∧
      labelFilters asked = [s.key "id" ++ "=" ++ id] := by
  have toArgs : Query.toArgs { labels := [s.key "id" ++ "=" ++ id] } = .ok _ := rfl
  obtain ⟨reply, rest, grew⟩ := getById_begins toArgs τ
  exact ⟨_, reply, rest, grew.log, (filters_toArgs toArgs).1⟩

/-- Every container that a creation creates, whether its attempt succeeds or not, has the labels
that later listings ask for: those for the containers of its order that were never started, those
that count names and ports, those of discovery, and those for the node of its identity. When the
creation succeeds, the container that it created last also has the label that the runner is looked
up by. -/
theorem created_containers_matched (s : Settings) (service : Service) (r : Runner) (σ : Session) :
    ∃ events, (createRunner s service r σ).2.log = σ.log ++ events ∧
      (∀ e ∈ events, ∀ args, creation? e = some args → Matched s service r args) ∧
      ∀ result, (createRunner s service r σ).1 = .ok result → ∃ id args, result.id = .str id ∧
        lastCreation events = some args ∧
        ∀ s' τ, s'.docker = s.docker → ∃ asked reply rest,
          (getById s' id τ).2.log = τ.log ++ .call (τ.binary :: asked) reply :: rest ∧
            ∃ label ∈ givenLabels args, labelFilters asked = [label] := by
  rcases order : Order.ofTemplate service r with e | o
  · rw [createRunner_refused order]
    refine ⟨[], by simp, fun e mem => absurd mem List.not_mem_nil, fun result succeeded => ?_⟩
    cases succeeded
  obtain ⟨events, -, log, confined⟩ := createRunner_confines order σ rfl
  refine ⟨events, log, fun e mem args created => ?_, fun result succeeded => ?_⟩
  · rcases confined e mem with rfl | asks
    · cases created
    obtain ⟨_, rfl, creates, asked⟩ := of_creation? asks created
    obtain ⟨g, id, a, fits, -, rfl⟩ := asked.creation creates
    exact matched fits order
  · obtain ⟨o, g, id, container, a, events', faithful, -, fits, -, rfl, log', last⟩ :=
      createRunner_creates (Prod.ext succeeded rfl)
    cases List.append_cancel_left (log.symm.trans log')
    have marked : Marked s service o id (specOf s o g id a).labels :=
      specOf_marked fits (Label.wellFormed_of_read faithful.models)
    refine ⟨id, _, (runnerOf_eq s service o id container a).2.1, last, fun s' τ same => ?_⟩
    obtain ⟨asked, reply, rest, log, labels⟩ := getById_listing s' id τ
    rw [Settings.key, same] at labels
    exact ⟨asked, reply, rest, log, _, marked.id_given, labels⟩

namespace Sample

/-- A session in which the first container does not start, since its address is taken. -/
def restartedSession : Session :=
  { session with
    answers :=
      [("network", [⟨networkDocument.toUTF8, .empty, 0⟩]),
       ("create", [⟨"7c\n".toUTF8, .empty, 0⟩, ⟨"7d\n".toUTF8, .empty, 0⟩]),
       ("start", [⟨.empty, "Address already in use".toUTF8, 1⟩, {}])] }

end Sample

/-- Both containers of that session are matched, the one that did not start as well. -/
theorem sample_containers_matched :
    ((createRunner Sample.settings .identity Sample.template
      Sample.restartedSession).2.log.filterMap creation?).length = 2 ∧
    ∀ args ∈ (createRunner Sample.settings .identity Sample.template
      Sample.restartedSession).2.log.filterMap creation?,
      Matched Sample.settings .identity Sample.template args := by
  refine ⟨by decide +kernel, fun args mem => ?_⟩
  obtain ⟨events, log, each, -⟩ :=
    created_containers_matched Sample.settings .identity Sample.template Sample.restartedSession
  obtain ⟨e, mem, creation⟩ := List.mem_filterMap.mp mem
  rw [log] at mem
  exact each e ((List.mem_append.mp mem).resolve_left List.not_mem_nil) args creation

/-- A container that was created for an attempt that failed does not have the identifier of the
runner that the next attempt gives. -/
theorem failed_attempt_not_matched : ∃ (result : Runner) (σ' : Session) (args : List Text),
    createRunner Sample.settings .identity Sample.template Sample.restartedSession =
        (.ok result, σ') ∧
      result.id = .str "runner-2" ∧ (∃ e ∈ σ'.log, creation? e = some args) ∧
      ∀ τ, ∃ (asked : List Text) (reply : Reply) (rest : List Event),
        (getById Sample.settings "runner-2" τ).2.log =
            τ.log ++ .call (τ.binary :: asked) reply :: rest ∧
          ∀ label ∈ labelFilters asked, label ∉ givenLabels args := by
  have named : (createRunner Sample.settings .identity Sample.template
      Sample.restartedSession).1.toOption.any (fun r =>
        r.id.asText.toOption == some ("runner-2" : Text)) = true := by decide +kernel
  have other : ((createRunner Sample.settings .identity Sample.template
      Sample.restartedSession).2.log.filterMap creation?).any (fun args =>
        !(givenLabels args).contains (Sample.settings.key "id" ++ "=" ++ "runner-2")) = true := by
    decide +kernel
  obtain ⟨result, σ', created, named⟩ := exists_of_any named
  rw [created] at other
  obtain ⟨args, mem, other⟩ := List.any_eq_true.mp other
  have id : result.id = .str "runner-2" := by
    rcases eq : result.id <;> rw [eq] at named <;> cases beq_iff_eq.mp named
    rfl
  refine ⟨result, σ', args, created, id, List.mem_filterMap.mp mem, fun τ => ?_⟩
  obtain ⟨asked, reply, rest, log, labels⟩ := getById_listing Sample.settings "runner-2" τ
  refine ⟨asked, reply, rest, log, fun label asks given => ?_⟩
  rw [labels] at asks
  cases List.mem_singleton.mp asks
  rw [List.contains_iff_mem.mpr given] at other
  cases other

end ProxyFleet.Creation
