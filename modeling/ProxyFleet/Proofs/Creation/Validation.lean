import ProxyFleet.Proofs.Creation.History
import ProxyFleet.Proofs.Creation.Success
import ProxyFleet.Proofs.Label.Writing

/-!
# Checks before anything is asked

A template is checked before docker is asked for anything: its label has to be readable, to have an
entry for each owner that the service needs, and the first entry of each of them has to supply the
fields that are needed of it, whatever their values. The first check that fails is the failure of
the creation, and a template that passes all of them reaches docker.
-/

namespace ProxyFleet

variable {owner : Owner} {e : Option Entry} {m : Model} {ms : List Model}
  {fields : List (Text × Json)} {name : Text}

/-! ## First entries -/

namespace Entry

/-- The fields of an entry of a kind of owner. -/
def fieldsOf? (owner : Owner) (e : Option Entry) : Option (List (Text × Json)) :=
  e.bind fun entry => if Owner.ofTag? entry.tag = some owner then some entry.fields else none

/-- A model that is read has the fields of its entry, which belongs to no other owner. -/
lemma fieldsOf?_eq (h : read e = .ok m) :
    ∃ fields, Reads (m.owner, fields) m ∧
      ∀ owner, fieldsOf? owner e = if m.owner = owner then some fields else none := by
  obtain ⟨entry, rfl, reads⟩ := reads_of_read h
  refine ⟨entry.fields, reads, fun owner => ?_⟩
  show (if Owner.ofTag? entry.tag = some owner then _ else _) = _
  rw [tag_of_read h]
  simp only [Option.some.injEq]

end Entry

namespace Label

/-- The fields of the first entry that a label has for a kind of owner. -/
def firstOf (l : Label) (owner : Owner) : Option (List (Text × Json)) :=
  l.entries.findSome? (Entry.fieldsOf? owner)

/-- The text that this entry supplies for a field. -/
def firstText? (l : Label) (owner : Owner) (name : Text) : Option Text :=
  ((l.firstOf owner).bind (Keyed.get? name)).map Json.text

/-- The first model of an owner is read from the first entry of that owner. -/
lemma firstOf_rel {l : Label} (read : l.read = .ok ms) (owner : Owner) :
    Option.Rel (fun fields m => Entry.Reads (owner, fields) m) (l.firstOf owner)
      (ms.find? fun m => m.owner = owner) := by
  replace read := (read_eq_ok.mp read).2
  unfold firstOf
  generalize l.entries = entries at read
  induction read with
  | nil => exact .none
  | @cons e m rest others first _ ih =>
    obtain ⟨fields, reads, eq⟩ := Entry.fieldsOf?_eq first
    by_cases found : m.owner = owner
    · rw [List.findSome?_cons, eq, if_pos found, List.find?_cons_of_pos (by simpa using found)]
      exact .some (found ▸ reads)
    · rw [List.findSome?_cons, eq, if_neg found, List.find?_cons_of_neg (by simpa using found)]
      exact ih

end Label

namespace Entry.Reads

/-- A field is missing from a model exactly when its entry did not supply it, whatever the value. -/
lemma isDefault_eq (h : Entry.Reads (owner, fields) m)
    (known : name ∈ owner.fields.map Field.name) : m.isDefault name = !Keyed.has name fields := by
  obtain ⟨f, mem, rfl⟩ := List.mem_map.mp known
  obtain ⟨rel, -⟩ := readFields_rel h.2 owner.nodup_names
  have rel := rel f mem
  have default : m.isDefault f.name = !Keyed.has f.name m.supplied := by
    simp [Model.isDefault, Model.defaults, h.1, known]
  rw [default, Keyed.has, Keyed.has]
  generalize Keyed.get? f.name fields = given, Keyed.get? f.name m.supplied = supplied at rel
  cases rel <;> rfl

/-- The fields that a model lacks are those that its entry did not supply. -/
lemma missing_eq (h : Entry.Reads (owner, fields) m) {names : List Text}
    (known : names ⊆ owner.fields.map Field.name) :
    m.missing names = names.filter fun name => !Keyed.has name fields :=
  List.filter_congr fun _ mem => h.isDefault_eq (known mem)

/-- A text field has the text that its entry supplied. -/
lemma text_eq (h : Entry.Reads (owner, fields) m) (kind : ⟨name, .text⟩ ∈ owner.fields) {j : Json}
    (given : Keyed.get? name fields = some j) : m.text name = j.text := by
  obtain ⟨rel, -⟩ := readFields_rel h.2 owner.nodup_names
  have rel := rel _ kind
  simp only [given] at rel
  generalize value : Keyed.get? name m.supplied = supplied at rel
  cases rel with
  | some read =>
    obtain ⟨t, written, rfl⟩ := Option.map_eq_some_iff.mp (Except.ok.inj read)
    rw [(Json.text?_eq_some.mp written).2]
    exact h.wellFormed.text_eq (Keyed.mem_of_get? value)

end Entry.Reads

namespace Creation
open Docker

variable {s : Settings} {service : Service} {o : Order} {r : Runner} {σ : Session}

/-! ## Checks -/

/-- What a template has to pass before it is an order. -/
inductive Check where
  /-- The label has an entry of an owner. -/
  | hasEntry (owner : Owner)
  /-- The first entry of the owner supplies the fields. -/
  | supplies (owner : Owner) (names : List Text)
  /-- There is a volume for the keystore. -/
  | keystore
  /-- The user of the provider is not empty. -/
  | user

/-- The failure of a check, if a template does not pass it. -/
def Check.refusal? (r : Runner) : Check → Option Failure
  | hasEntry owner => if (r.label.firstOf owner).isSome then none else some (.missingOwner owner)
  | supplies owner names =>
    match names.filter fun name => !Keyed.has name ((r.label.firstOf owner).getD []) with
    | [] => none
    | missing => some (.incompleteInput missing)
  | keystore => if r.volumes.any (·.keystore) then none else some (.incompleteInput ["volumes"])
  | user =>
    if r.label.firstText? .provider "user_identity" = some [] then
      some (.incompleteInput ["user_identity"])
    else none

/-- The owners that a service needs, with the fields that are needed of each. -/
def required : Service → List (Owner × List Text)
  | .identity => [(.identity, ["id", "identity", "passphrase"])]
  | .connector =>
    [(.identity, ["id", "identity"]), (.provider, ["id", "provider_identity", "user_identity"])]
  | .relay => [(.identity, ["id"]), (.provider, ["id"]), (.listener, ["id"])]

/-- The checks of a service in their order. -/
def checks (service : Service) : List Check :=
  ((required service).flatMap fun q => [.hasEntry q.1, .supplies q.1 q.2]) ++
    match service with
    | .identity => [.keystore]
    | .connector => [.user]
    | .relay => []

/-- The failure that a template is refused with: that of its label, or that of the first check that
it does not pass. -/
def refusal? (service : Service) (r : Runner) : Option Failure :=
  match r.label.read with
  | .error e => some e
  | .ok _ => (checks service).findSome? (Check.refusal? r)

/-- Whether a template has all that its service needs. -/
structure Valid (service : Service) (r : Runner) : Prop where
  readable : ∃ models, r.label.read = .ok models
  supplied : ∀ q ∈ required service, ∃ fields, r.label.firstOf q.1 = some fields ∧
    ∀ name ∈ q.2, Keyed.has name fields = true
  keystore : service = .identity → ∃ v ∈ r.volumes, v.keystore = true
  user : service = .connector → r.label.firstText? .provider "user_identity" ≠ some []

/-! ## The first check that fails -/

/-- The failure of an outcome. -/
def failure? {β : Type} : Except Failure β → Option Failure
  | .error e => some e
  | .ok _ => none

section

variable {models : List Model} {β : Type} {k : Model → Except Failure β} {names : List Text}
  {rest : List Check}

/-- Looking for the first entry of an owner and asking for its fields are two checks, after which
the entry supplies the fields. -/
lemma failure?_require (read : r.label.read = .ok models)
    (known : names ⊆ owner.fields.map Field.name)
    (others : ∀ m fields, r.label.firstOf owner = some fields → Entry.Reads (owner, fields) m →
      (∀ name ∈ names, Keyed.has name fields = true) →
      failure? (k m) = rest.findSome? (Check.refusal? r)) :
    failure? (do
      let m ← Model.find models owner
      requireFields m names
      k m) =
      (Check.hasEntry owner :: Check.supplies owner names :: rest).findSome?
        (Check.refusal? r) := by
  have rel := Label.firstOf_rel read owner
  unfold Model.find
  rw [List.findSome?_cons, List.findSome?_cons]
  generalize first : r.label.firstOf owner = fields?, models.find? (fun m => m.owner = owner) = m?
    at rel
  cases rel with
  | none =>
    have absent : Check.refusal? r (.hasEntry owner) = some (.missingOwner owner) := by
      simp [Check.refusal?, first]
    rw [absent]
    rfl
  | @some fields m reads =>
    have entry : Check.refusal? r (.hasEntry owner) = none := by simp [Check.refusal?, first]
    rw [entry]
    dsimp only [Check.refusal?]
    rw [ok_bind, requireFields, reads.missing_eq known, first, Option.getD_some]
    rcases missing : names.filter fun name => !Keyed.has name fields with _ | ⟨name, more⟩
    · refine others m fields first reads fun name mem => ?_
      simpa using List.filter_eq_nil_iff.mp missing name mem
    · rfl

end

/-- A template is refused with the failure of the first check that it does not pass. -/
lemma failure?_ofTemplate (service : Service) (r : Runner) :
    failure? (Order.ofTemplate service r) = refusal? service r := by
  unfold Order.ofTemplate refusal?
  rcases read : r.label.read with e | models
  · rfl
  rw [ok_bind]
  cases service with
  | identity =>
    refine failure?_require read (by decide) fun identity _ _ _ _ => ?_
    have found : r.keystore?.isNone = !r.volumes.any (·.keystore) := by
      rw [Runner.keystore?, ← List.isSome_find?, Option.not_isSome]
    show _ = [Check.keystore].findSome? (Check.refusal? r)
    rw [found, List.findSome?_singleton, Check.refusal?]
    cases r.volumes.any (·.keystore) <;> rfl
  | connector =>
    refine failure?_require read (by decide) fun identity _ _ _ _ => ?_
    refine failure?_require read (by decide) fun provider fields first reads given => ?_
    obtain ⟨j, value⟩ := Option.isSome_iff_exists.mp (given "user_identity" (by decide))
    have text : r.label.firstText? .provider "user_identity" =
        some (provider.text "user_identity") := by
      rw [reads.text_eq (by decide) value, Label.firstText?, first, Option.bind_some, value]
      rfl
    show _ = [Check.user].findSome? (Check.refusal? r)
    rw [List.findSome?_singleton, Check.refusal?, text]
    cases provider.text "user_identity" <;> rfl
  | relay =>
    refine failure?_require read (by decide) fun identity _ _ _ _ => ?_
    refine failure?_require read (by decide) fun provider _ _ _ _ => ?_
    refine failure?_require read (by decide) fun listener _ _ _ _ => ?_
    rfl

/-! ## Templates that pass -/

/-- A label passes with an entry of the owner. -/
lemma Check.hasEntry_passes : Check.refusal? r (.hasEntry owner) = none ↔
    ∃ fields, r.label.firstOf owner = some fields := by
  rw [← Option.isSome_iff_exists]
  dsimp only [refusal?]
  split <;> simp [*]

/-- A label passes with an entry that supplies all of the fields. -/
lemma Check.supplies_passes {names : List Text} (first : r.label.firstOf owner = some fields) :
    Check.refusal? r (.supplies owner names) = none ↔
      ∀ name ∈ names, Keyed.has name fields = true := by
  have none : (names.filter fun name => !Keyed.has name fields) = [] ↔
      ∀ name ∈ names, Keyed.has name fields = true := by simp
  rw [← none]
  dsimp only [refusal?]
  rw [first, Option.getD_some]
  rcases names.filter fun name => !Keyed.has name fields with _ | ⟨name, rest⟩ <;> simp

/-- A template passes with a volume for the keystore. -/
lemma Check.keystore_passes :
    Check.refusal? r .keystore = none ↔ ∃ v ∈ r.volumes, v.keystore = true := by
  rw [← List.any_eq_true]
  dsimp only [refusal?]
  split <;> simp [*]

/-- A template passes unless its provider supplies an empty user. -/
lemma Check.user_passes : Check.refusal? r .user = none ↔
    r.label.firstText? .provider "user_identity" ≠ some [] := by
  dsimp only [refusal?]
  split <;> simp [*]

/-- A template is refused by nothing when its label is read and every check passes. -/
lemma refusal?_eq_none : refusal? service r = none ↔
    (∃ models, r.label.read = .ok models) ∧
      ∀ c ∈ checks service, Check.refusal? r c = none := by
  unfold refusal?
  rcases r.label.read with e | models
  · exact ⟨nofun, fun ⟨⟨_, read⟩, _⟩ => nomatch read⟩
  · exact List.findSome?_eq_none_iff.trans ⟨fun all => ⟨⟨models, rfl⟩, all⟩, And.right⟩

/-- No check fails exactly when the template has all that its service needs. -/
lemma valid_iff : Valid service r ↔ refusal? service r = none := by
  rw [refusal?_eq_none]
  constructor
  · intro valid
    refine ⟨valid.readable, fun c mem => ?_⟩
    rcases List.mem_append.mp mem with mem | mem
    · obtain ⟨q, need, mem⟩ := List.mem_flatMap.mp mem
      obtain ⟨fields, first, given⟩ := valid.supplied q need
      rcases List.mem_pair.mp mem with rfl | rfl
      · exact Check.hasEntry_passes.mpr ⟨fields, first⟩
      · exact (Check.supplies_passes first).mpr given
    · cases service with
      | identity =>
        cases List.mem_singleton.mp mem
        exact Check.keystore_passes.mpr (valid.keystore rfl)
      | connector =>
        cases List.mem_singleton.mp mem
        exact Check.user_passes.mpr (valid.user rfl)
      | relay => cases mem
  · rintro ⟨readable, all⟩
    refine ⟨readable, fun q need => ?_, ?_, ?_⟩
    · have each : ∀ c ∈ [Check.hasEntry q.1, .supplies q.1 q.2], Check.refusal? r c = none :=
        fun c mem => all c (List.mem_append_left _ (List.mem_flatMap.mpr ⟨q, need, mem⟩))
      obtain ⟨fields, first⟩ := Check.hasEntry_passes.mp (each _ List.mem_cons_self)
      exact ⟨fields, first, (Check.supplies_passes first).mp
        (each _ (List.mem_cons_of_mem _ List.mem_cons_self))⟩
    · rintro rfl
      exact Check.keystore_passes.mp (all _ (List.mem_append_right _ (List.mem_singleton_self _)))
    · rintro rfl
      exact Check.user_passes.mp (all _ (List.mem_append_right _ (List.mem_singleton_self _)))

/-! ## Templates that reach docker -/

/-- Whether a volume exists is asked by inspecting it. -/
lemma volumeExists_begins (name : Text) :
    Begins (Commands ["volume"]) ["volume", "inspect", name] (volumeExists name) := by
  refine .bind_attempt (.run (.head _ _)) fun outcome => ?_
  split
  · exact .pure _
  · split
    · exact .pure _
    · exact .throw _
  · exact .throw _

/-- The node of an order is listed first. -/
lemma findNode_begins (order : Order.ofTemplate service r = .ok o) :
    ∃ args, Begins (Commands preparing) args (findNode s o) := by
  have owners := identity_written order s.docker.keyPrefix ("identity" :: secretFields)
  obtain ⟨args, toArgs⟩ : ∃ args, Query.toArgs
      { labels := s.projectFilter .identity ::
          (o.identity.flat s.docker.keyPrefix ("identity" :: secretFields)).map assignment
        status := ["running"]
        stopped := false } = .ok args := ⟨_, rfl⟩
  have lists := list_begins toArgs (P := Commands preparing)
    ⟨"ps", by decide, Query.toArgs_head toArgs⟩ (Commands.mono (by decide))
  refine ⟨args, .lift_bind owners (.bind lists ?_)⟩
  rintro (_ | ⟨node, _⟩)
  · exact .throw _
  · exact .pure _

/-- Whatever groundwork the service of an order needs, docker is asked for something. -/
lemma layGroundwork_begins (order : Order.ofTemplate service r = .ok o) :
    ∃ args, Begins (Commands preparing) args (layGroundwork s service o) := by
  cases service with
  | identity =>
    refine ⟨_, .bind ((volumeExists_begins _).mono (Commands.mono (by decide))) fun found => ?_⟩
    split
    · exact .pure _
    · exact .bind (.lift _) fun _ => .bind (.lift _) fun _ =>
        .bind ((createVolume_composed _ _ _).asks.mono (Commands.mono (by decide))) fun _ => .pure _
  | connector =>
    obtain ⟨args, begins⟩ := findNode_begins (s := s) order
    exact ⟨args, .bind begins fun _ => .pure _⟩
  | relay =>
    obtain ⟨args, begins⟩ := findNode_begins (s := s) order
    refine ⟨args, .bind begins fun node => ?_⟩
    split
    · split
      · exact .throw _
      · exact .pure _
    · exact .throw _

/-- A creation whose template is an order asks docker for something. -/
lemma createRunner_begins (order : Order.ofTemplate service r = .ok o) :
    ∃ args reply rest,
      (createRunner s service r σ).2.log = σ.log ++ .call (σ.binary :: args) reply :: rest := by
  obtain ⟨args, begins⟩ := layGroundwork_begins (s := s) order
  obtain ⟨reply, rest, grew⟩ := begins σ
  obtain ⟨more, log⟩ := createRunner_extends (s := s) (σ := σ) order
  refine ⟨args, reply, rest ++ more, ?_⟩
  rw [log, grew.log, List.append_assoc]
  rfl

/-- A creation ends without having touched its session exactly when a check fails, and with the
failure of the first such check; all checks pass exactly when the template has what its service
needs, and a template that has it reaches docker. -/
theorem only_checks_refuse (s : Settings) (service : Service) (r : Runner) (σ : Session) :
    (∀ e, createRunner s service r σ = (.error e, σ) ↔ refusal? service r = some e) ∧
    (refusal? service r = none ↔ Valid service r) ∧
    ((createRunner s service r σ).2.log = σ.log ∧ (createRunner s service r σ).2.issued = σ.issued ↔
      ¬ Valid service r) ∧
    (Valid service r → (createRunner s service r σ).2.log ≠ σ.log) := by
  have refused := failure?_ofTemplate service r
  rw [valid_iff]
  rcases order : Order.ofTemplate service r with e | o
  · rw [order] at refused
    rw [createRunner_refused order, ← refused]
    refine ⟨fun e' => ⟨fun ran => ?_, fun eq => ?_⟩, Iff.rfl, ⟨fun _ => nofun, fun _ => ⟨rfl, rfl⟩⟩,
      nofun⟩
    · exact congrArg failure? (Prod.mk.inj ran).1
    · cases eq
      rfl
  · rw [order] at refused
    obtain ⟨args, reply, rest, log⟩ := createRunner_begins (s := s) (σ := σ) order
    have asked : (createRunner s service r σ).2.log ≠ σ.log := by simp [log]
    rw [← refused]
    refine ⟨fun e => ⟨fun ran => absurd (congrArg (·.2.log) ran) asked, nofun⟩, Iff.rfl, ?_,
      fun _ => asked⟩
    exact ⟨fun same => absurd same.1 asked, fun none => absurd rfl none⟩

end Creation

end ProxyFleet
