import ProxyFleet.Proofs.Creation.Matching
import ProxyFleet.Proofs.Creation.Ports
import ProxyFleet.Proofs.Creation.Validation
import ProxyFleet.Proofs.Label.Flattening

/-!
# What a container runs and what its labels say

The process in a container is told its entity by variables and by the name of its keystore volume,
and others are told by labels. The variables have what the first entry of an owner supplies, and the
labels what the last one does. The checks of a template see to it that either has a value at all.
-/

namespace ProxyFleet

namespace Model

variable {ms : List Model} {m : Model} {owner : Owner} {name t : Text}

/-- The first entry of an owner is the one that is found for it. -/
lemma firstText?_of_find (found : find ms owner = .ok m) :
    firstText? ms owner name = m.given? name := by
  unfold find at found
  split at found
  · rename_i first
    cases found
    rw [firstText?, first, Option.bind_some]
  · cases found

/-- What the first entry of an owner supplies is the text of its model. -/
lemma text_of_firstText? (wf : ∀ m ∈ ms, m.WellFormed) (found : find ms owner = .ok m)
    (h : firstText? ms owner name = some t) : m.text name = t := by
  rw [firstText?_of_find found] at h
  exact (wf m (Creation.find_ok found).1).text_of_given h

end Model

namespace Creation
open Docker

variable {s : Settings} {service : Service} {o : Order} {g : Groundwork} {r : Runner}
  {id name : Text} {names : List Text} {owner : Owner} {a : Allocation} {args : List Text}

/-! ## Created containers -/

/-- Whether groundwork is what an order for a service has been given: an identity node gets the
volume that is named for its identity. -/
inductive Laid (s : Settings) (o : Order) : Service → Groundwork → Prop where
  | keystore : Laid s o .identity (.keystore (s.keystoreVolume o))
  | node (id : Json) : Laid s o .connector (.node id)
  | address (target : Json) : Laid s o .relay (.address target)

/-- What is laid fits its service. -/
lemma Laid.fits (h : Laid s o service g) : g.Fits service := by
  cases h <;> trivial

/-- The groundwork of an order is laid for its service. -/
lemma layGroundwork_laid (s : Settings) (service : Service) (o : Order) :
    Yields (Laid s o service) (layGroundwork s service o) := by
  cases service with
  | identity =>
    refine .bind (.any _) fun found _ => ?_
    split
    · exact .pure .keystore
    · exact .bind (.any _) fun _ _ => .bind (.any _) fun _ _ => .bind (.any _) fun _ _ =>
        .pure .keystore
  | connector => exact .bind (.any _) fun node _ => .pure (.node _)
  | relay =>
    refine .bind (.any _) fun _ _ => ?_
    split
    · split
      · exact .throw _
      · exact .pure (.address _)
    · exact .throw _

/-- The containers that attempts create fit their groundwork. -/
lemma AttemptRequest.creation (h : AttemptRequest s service o g args)
    (creates : Commands ["create"] args) : ∃ id a, args = createArgs s o g id a := by
  cases h with
  | creates => exact ⟨_, _, rfl⟩
  | lists _ asked =>
    have lists : Commands ["ps"] args := ⟨"ps", List.mem_singleton_self _, Query.toArgs_head asked⟩
    exact absurd creates (Commands.not_of_not_mem (by decide) lists)
  | stale =>
    have lists : Commands ["ps"] (staleArgs s service o) := .head _ _
    exact absurd creates (Commands.not_of_not_mem (by decide) lists)
  | looks asked => exact absurd creates (Commands.not_of_not_mem (by decide) asked)
  | acts asked => exact absurd creates (Commands.not_of_not_mem (by decide) asked)

/-- Whatever a creation creates is the container of its order, on the groundwork of the order. -/
lemma createRunner_containers (order : Order.ofTemplate service r = .ok o) (σ : Session) :
    ∃ events, (createRunner s service r σ).2.log = σ.log ++ events ∧
      ∀ e ∈ events, ∀ args, creation? e = some args →
        ∃ g id a, Laid s o service g ∧ args = (createArgs s o g id a).drop 1 := by
  have confines : Confines σ.binary (fun args => Commands ["create"] args →
      ∃ g id a, Laid s o service g ∧ args = createArgs s o g id a) (createRunner s service r) := by
    refine createRunner_confines_of order ?_ (layGroundwork_laid s service o)
      fun g args laid asked creates => ?_
    · refine (layGroundwork_composed s service o).mono fun args asked creates => ?_
      have prepares := admits_preparing.preparatory s service o args asked
      exact absurd creates (Commands.not_of_not_mem (by decide) prepares)
    · obtain ⟨id, a, rfl⟩ := asked.creation creates
      exact ⟨g, id, a, laid, rfl⟩
  obtain ⟨events, -, log, confined⟩ := confines σ rfl
  refine ⟨events, log, fun e mem args created => ?_⟩
  rcases confined e mem with rfl | asks
  · cases created
  · obtain ⟨_, rfl, creates, asked⟩ := of_creation? asks created
    obtain ⟨g, id, a, laid, rfl⟩ := asked creates
    exact ⟨g, id, a, laid, rfl⟩

/-! ## Required fields -/

/-- The template of an order is valid. -/
lemma Order.valid (order : Order.ofTemplate service r = .ok o) : Valid service r := by
  rw [valid_iff, ← failure?_ofTemplate, order]
  rfl

/-- The fields that a service requires are fields of their owners. -/
lemma required_known (service : Service) :
    ∀ q ∈ required service, q.2 ⊆ q.1.fields.map Field.name := by
  cases service <;> decide

/-- What a service needs of an owner is supplied by the owner's first entry. -/
lemma Order.exists_firstText? (order : Order.ofTemplate service r = .ok o)
    (need : (owner, names) ∈ required service) (mem : name ∈ names) :
    ∃ t, Model.firstText? o.models owner name = some t := by
  obtain ⟨-, read, -, -⟩ := Order.ofTemplate_ok order
  obtain ⟨fields, first, given⟩ := (Order.valid order).supplied _ need
  have rel := Label.firstOf_rel read owner
  rw [first] at rel
  unfold Model.firstText?
  generalize o.models.find? (fun m => m.owner = owner) = m? at rel
  cases rel with
  | @some _ m reads =>
    have known := required_known service _ need mem
    have kept := reads.isDefault_eq known
    rw [given name mem, Model.isDefault_eq (reads.1.symm ▸ known)] at kept
    exact Option.isSome_iff_exists.mp (by simpa using kept)

/-- The provider of a connector is the first one of its label. -/
lemma Order.provider_found (order : Order.ofTemplate .connector r = .ok o) :
    ∃ m, o.provider = some m ∧ Model.find o.models .provider = .ok m := by
  obtain ⟨models, read, h⟩ := bind_eq_ok.mp order
  obtain ⟨identity, -, h⟩ := bind_eq_ok.mp h
  obtain ⟨_, -, h⟩ := bind_eq_ok.mp h
  obtain ⟨provider, found, h⟩ := bind_eq_ok.mp h
  obtain ⟨_, -, h⟩ := bind_eq_ok.mp h
  split at h
  · cases h
  · cases h
    exact ⟨provider, rfl, found⟩

/-! ## Variables -/

/-- A variable by which a container is told a field of an owner. -/
structure EntityVariable where
  name : Text
  owner : Owner
  field : Text

/-- The variables that tell the containers of a service their entity. -/
def entityVariables : Service → List EntityVariable
  | .identity => [⟨"MYST_IDENTITY", .identity, "identity"⟩]
  | .connector =>
    [⟨"MYST_IDENTITY", .identity, "identity"⟩,
     ⟨"PROVIDER_IDENTITY", .provider, "provider_identity"⟩, ⟨"API_PROVIDER_ID", .provider, "id"⟩]
  | .relay => []

/-- What a variable tells is needed of its owner and is no secret. -/
lemma entityVariables_required (service : Service) : ∀ v ∈ entityVariables service,
    ⟨v.field, .text⟩ ∈ v.owner.fields ∧ v.field ∉ secretFields ∧
      ∃ q ∈ required service, q.1 = v.owner ∧ v.field ∈ q.2 := by
  cases service <;> simp [entityVariables, required] <;> decide

/-- A variable has what the first entry of its owner supplies. -/
lemma specOf_variable (order : Order.ofTemplate service r = .ok o) (laid : Laid s o service g)
    {v : EntityVariable} (mem : v ∈ entityVariables service) {t : Text}
    (first : Model.firstText? o.models v.owner v.field = some t) :
    Keyed.get? v.name (specOf s o g id a).env = some t := by
  obtain ⟨-, read, found, -⟩ := Order.ofTemplate_ok order
  have wf := Label.wellFormed_of_read read
  cases laid with
  | keystore =>
    cases List.mem_singleton.mp mem
    rw [← Model.text_of_firstText? wf found first]
    rfl
  | node =>
    obtain ⟨provider, named, found'⟩ := Order.provider_found order
    have given : ∀ name, o.providerText name = provider.text name := fun name => by
      rw [Order.providerText, named, Option.elim_some]
    simp only [entityVariables, List.mem_cons, List.not_mem_nil, or_false] at mem
    rcases mem with rfl | rfl | rfl
    · rw [← Model.text_of_firstText? wf found first]
      rfl
    · rw [← Model.text_of_firstText? wf found' first, ← given]
      rfl
    · rw [← Model.text_of_firstText? wf found' first, ← given]
      rfl
  | address => cases mem

/-- No variable is set twice. -/
lemma specOf_env_nodup (laid : Laid s o service g) :
    (Keyed.keys (specOf s o g id a).env).Nodup := by
  cases laid with
  | keystore => exact (by decide : (["MYST_IDENTITY", "MYST_IDENTITY_PASS"] : List Text).Nodup)
  | node =>
    have nodup : (["MYST_API_BASE_ADDRESS", "MYST_IDENTITY", "PROVIDER_IDENTITY", "API_PROVIDER_ID",
        "REDIS_HOST", "REDIS_PORT", "REDIS_DB"] : List Text).Nodup := by decide
    exact nodup
  | address => exact List.nodup_nil

/-- The label of a field that is no secret has what the last entry supplies. -/
lemma specOf_label (order : Order.ofTemplate service r = .ok o) (laid : Laid s o service g)
    {f : Field} (known : f ∈ owner.fields) (shown : f.name ∉ secretFields) :
    Keyed.get? (fieldKey s.docker.keyPrefix owner f.name) (specOf s o g id a).labels =
      Model.lastText? o.models owner f.name := by
  have marked : Marked s service o id (specOf s o g id a).labels := order_marked laid.fits order
  rw [marked.fields known, Settings.ownerLabels, Model.get?_flatAll_field
    (Label.wellFormed_of_read (Order.ofTemplate_ok order).2.1) _ _ known, if_neg shown]

/-! ## Containers and their labels -/

/-- Whether a container runs what the first of the entries of an owner supplies, and has labels for
what the last of them supplies. -/
structure RunsFirst (s : Settings) (service : Service) (models : List Model) (spec : Spec) :
    Prop where
  env_nodup : (Keyed.keys spec.env).Nodup
  labels_nodup : (Keyed.keys spec.labels).Nodup
  entity : ∀ v ∈ entityVariables service, ∃ run label,
    Keyed.get? v.name spec.env = some run ∧ Model.firstText? models v.owner v.field = some run ∧
    Keyed.get? (fieldKey s.docker.keyPrefix v.owner v.field) spec.labels = some label ∧
    Model.lastText? models v.owner v.field = some label
  keystore : service = .identity → ∃ run, Model.firstText? models .identity "identity" = some run ∧
    spec.binds =
      [localtimeBind, s.identity.volumePrefix ++ "-" ++ run ++ ":" ++ s.identity.keystorePath]

/-- The container of an order runs for the first entries of its template. -/
lemma runsFirst (order : Order.ofTemplate service r = .ok o) (laid : Laid s o service g) :
    RunsFirst s service o.models (specOf s o g id a) where
  env_nodup := specOf_env_nodup laid
  labels_nodup := (order_marked laid.fits order).nodup
  entity v mem := by
    obtain ⟨known, shown, ⟨owner, names⟩, need, rfl, required⟩ :=
      entityVariables_required service v mem
    obtain ⟨run, first⟩ := Order.exists_firstText? order need required
    obtain ⟨label, last⟩ := Model.exists_lastText? first
    refine ⟨run, label, specOf_variable order laid mem first, first, ?_, last⟩
    rw [← last]
    exact specOf_label order laid known shown
  keystore identity := by
    subst identity
    obtain ⟨-, read, found, -⟩ := Order.ofTemplate_ok order
    obtain ⟨run, first⟩ := Order.exists_firstText? order (List.mem_singleton_self _)
      (show ("identity" : Text) ∈ _ by decide)
    refine ⟨run, first, ?_⟩
    rw [← Model.text_of_firstText? (Label.wellFormed_of_read read) found first]
    cases laid with
    | keystore => rfl

/-- Every container that a creation creates runs the entity that the first entries of the template's
label name, down to the keystore of an identity node, and its labels name that of the last entries.
With one entry of an owner the two are the same. -/
theorem entity_variables_labelled (s : Settings) (service : Service) (r : Runner) (σ : Session) :
    ∃ events, (createRunner s service r σ).2.log = σ.log ++ events ∧
      ∀ e ∈ events, ∀ args, creation? e = some args → ∃ o g id a,
        Order.ofTemplate service r = .ok o ∧ r.label.read = .ok o.models ∧
        args = (specOf s o g id a).toArgs.drop 1 ∧
        RunsFirst s service o.models (specOf s o g id a) ∧
        ∀ v ∈ entityVariables service, (o.models.filter fun m => m.owner = v.owner).length ≤ 1 →
          Keyed.get? v.name (specOf s o g id a).env = Keyed.get?
            (fieldKey s.docker.keyPrefix v.owner v.field) (specOf s o g id a).labels := by
  rcases order : Order.ofTemplate service r with e | o
  · rw [createRunner_refused order]
    exact ⟨[], (List.append_nil _).symm, nofun⟩
  obtain ⟨events, log, created⟩ := createRunner_containers (s := s) order σ
  refine ⟨events, log, fun e mem args creation => ?_⟩
  obtain ⟨g, id, a, laid, rfl⟩ := created e mem args creation
  have runs : RunsFirst s service o.models (specOf s o g id a) := runsFirst order laid
  refine ⟨o, g, id, a, rfl, (Order.ofTemplate_ok order).2.1, rfl, runs, fun v mem single => ?_⟩
  obtain ⟨run, label, env, first, labelled, last⟩ := runs.entity v mem
  rw [env, labelled, ← first, ← last, Model.lastText?_eq_firstText? single]

namespace Sample

/-- A template for a connector whose label names the provider first. -/
def connectorTemplate : Runner :=
  .template .connector (.many
    [some ⟨.str "provider", [("user_identity", .str "0xcd"), ("id", .int 2),
       ("provider_identity", .str "0xef")]⟩,
     some ⟨.str "identity", [("id", .str "1"), ("identity", .str "0xab")]⟩])

/-- A session in which the node of the identity runs. -/
def connectorSession : Session where
  binary := "docker"
  answers :=
    [("ps", [⟨"5c\n".toUTF8, .empty, 0⟩]), ("inspect", [⟨nodeDocument.toUTF8, .empty, 0⟩]),
     ("create", [⟨"7c\n".toUTF8, .empty, 0⟩])]
  log := []
  issued := 0

/-- A template for an identity node whose label names two identities. -/
def twofoldTemplate : Runner :=
  { template with
    label := .many
      [some ⟨.str "identity",
         [("id", .str "1"), ("identity", .str "0xab"), ("passphrase", .str "secret")]⟩,
       some ⟨.str "identity",
         [("id", .str "1"), ("identity", .str "0xcd"), ("passphrase", .str "secret")]⟩] }

end Sample

/-- The connector of the sample is told the provider that its label names. -/
theorem sample_provider_labelled : ∃ e ∈ (createRunner Sample.settings .connector
    Sample.connectorTemplate Sample.connectorSession).2.log, ∃ o g id a,
    creation? e = some ((specOf Sample.settings o g id a).toArgs.drop 1) ∧
      Keyed.get? ("PROVIDER_IDENTITY" : Text) (specOf Sample.settings o g id a).env =
        some ("0xef" : Text) ∧
      Keyed.get? (fieldKey "com.mysterium-proxy" .provider "provider_identity")
        (specOf Sample.settings o g id a).labels = some ("0xef" : Text) := by
  have creates : ((createRunner Sample.settings .connector Sample.connectorTemplate
      Sample.connectorSession).2.log.any fun e => (creation? e).isSome) = true := by decide +kernel
  obtain ⟨events, log, created⟩ := entity_variables_labelled Sample.settings .connector
    Sample.connectorTemplate Sample.connectorSession
  obtain ⟨e, mem, creates⟩ := List.any_eq_true.mp creates
  obtain ⟨args, creation⟩ := Option.isSome_iff_exists.mp creates
  have here : e ∈ events := by
    rw [log] at mem
    exact (List.mem_append.mp mem).resolve_left List.not_mem_nil
  obtain ⟨o, g, id, a, -, read, rfl, runs, labelled⟩ := created e here args creation
  have told : ⟨"PROVIDER_IDENTITY", .provider, "provider_identity"⟩ ∈ entityVariables .connector :=
    List.mem_cons_of_mem _ List.mem_cons_self
  obtain ⟨run, -, env, first, -⟩ := runs.entity _ told
  have single := labelled _ told
  obtain ⟨models, eq⟩ : ∃ models, models = o.models := ⟨_, rfl⟩
  rw [← eq] at read first single
  cases read
  cases first
  exact ⟨e, mem, o, g, id, a, creation, env, (single (by decide)).symm.trans env⟩

/-- The node with two identities runs the first one and is labelled with the second. -/
theorem twofold_node_mislabelled : ∃ e ∈ (createRunner Sample.settings .identity
    Sample.twofoldTemplate Sample.restartedSession).2.log, ∃ args, creation? e = some args ∧
      (("--env" : Text), ("MYST_IDENTITY=0xab" : Text)) ∈ readOptions args ∧
      ("com.mysterium-proxy.identity.identity=0xcd" : Text) ∈ givenLabels args ∧
      ("com.mysterium-proxy.identity.identity=0xab" : Text) ∉ givenLabels args := by
  have given : (((createRunner Sample.settings .identity Sample.twofoldTemplate
      Sample.restartedSession).2.log.filterMap creation?).any fun args =>
        (readOptions args).contains ("--env", "MYST_IDENTITY=0xab") &&
          (givenLabels args).contains "com.mysterium-proxy.identity.identity=0xcd" &&
            !(givenLabels args).contains "com.mysterium-proxy.identity.identity=0xab") = true := by
    decide +kernel
  obtain ⟨args, mem, given⟩ := List.any_eq_true.mp given
  obtain ⟨e, logged, creation⟩ := List.mem_filterMap.mp mem
  simp only [Bool.and_eq_true, Bool.not_eq_true', List.contains_eq_mem, decide_eq_true_eq,
    decide_eq_false_iff_not] at given
  exact ⟨e, logged, args, creation, given.1.1, given.1.2, given.2⟩

end Creation

end ProxyFleet
