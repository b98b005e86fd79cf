import ProxyFleet.Proofs.Catalogue.Registration

/-!
# What registering depends on

Of the label of a runner only the first provider entry counts, whatever the entries behind it say.
Of a provider nothing counts that an earlier registration left there, but for the status, which an
unregistered provider keeps.
-/

namespace ProxyFleet

variable {r : Runner} {ms : List Model} {m : Model} {p p' q : Provider} {key : Text × Text}

/-- A model refers to a provider by both texts that it supplies. -/
lemma Model.reference?_eq_some {id identity : Text} : m.reference? = some (id, identity) ↔
    m.given? "id" = some id ∧ m.given? "provider_identity" = some identity := by
  cases first : m.given? "id" <;> cases second : m.given? "provider_identity" <;>
    simp [Model.reference?, first, second]

/-- A provider without what is computed for it. -/
def Provider.stored (p : Provider) : Provider :=
  { p with registered := false, runner := none, status := none }

/-- A provider of which no status is stored. -/
def Provider.withoutStatus (p : Provider) : Provider := { p with status := none }

namespace Catalogue

variable {index : RunnerIndex}

/-! ## The entry that counts -/

/-- The models of a readable label are those that are read. -/
lemma models_of_readable (readable : readableModels r = .ok ms) : r.label.models = ms := by
  unfold readableModels at readable
  unfold Label.models
  split at readable
  · rename_i read
    rw [read]
    exact Except.ok.inj readable
  · rename_i read
    rw [read]
    split at readable
    · exact Except.ok.inj readable
    · cases readable

/-- A label that is read is readable. -/
lemma readableModels_of_read (read : r.label.read = .ok ms) : readableModels r = .ok ms := by
  rw [readableModels, read]

/-- A runner that is indexed names its user: its label is readable and has a provider entry. -/
lemma exists_userIdentity (indexed : providerKey? r = .ok (some key)) :
    ∃ user, userIdentity r = .ok user := by
  obtain ⟨ms, readable, h⟩ := bind_eq_ok.mp indexed
  cases models_of_readable readable
  split at h
  · cases h
  · rename_i found
    exact ⟨_, userIdentity_of_find found⟩

/-- The index of one runner has the key of its first reference, if there is one. -/
lemma ofRunners_singleton {key? : Option (Text × Text)} (keyed : providerKey? r = .ok key?) :
    RunnerIndex.ofRunners [r] = .ok (key?.toList.map fun key => (key, r)) := by
  unfold RunnerIndex.ofRunners indexRunners
  rw [keyed]
  cases key? <;> rfl

/-! ## Registering by an index -/

/-- A provider that no runner registers. -/
def unregistered (p : Provider) : Provider := { p with registered := false, runner := none }

/-- A provider that a runner registers which works for a user. -/
def registeredBy (r : Runner) (user : Option Text) (p : Provider) : Provider :=
  { p with
    registered := true
    runner := some r
    status := some .online
    userIdentity := (user.filter fun s => !s.isEmpty).or p.userIdentity }

/-- A provider that no runner of the index has is not registered. -/
lemma register_of_none (absent : Keyed.get? (p.id, p.identity) index = none) :
    register index p = .ok (unregistered p) := by
  rw [register, absent]
  rfl

/-- A provider that a runner of the index has is registered by it. -/
lemma register_of_some (found : Keyed.get? (p.id, p.identity) index = some r) :
    register index p = (userIdentity r).map fun user => registeredBy r user p := by
  rw [register, found]
  dsimp only
  cases userIdentity r <;> rfl

/-- What registering a provider by an index makes of it: it keeps what it is found by, and the rest
is read off the index, but for the status when there is no runner. -/
structure Computed (index : RunnerIndex) (p q : Provider) : Prop where
  id : q.id = p.id
  identity : q.identity = p.identity
  registered : q.registered = Keyed.has (p.id, p.identity) index
  runner : q.runner = Keyed.get? (p.id, p.identity) index
  status : q.status = if Keyed.has (p.id, p.identity) index then some .online else p.status

/-- A provider that is registered has what is computed from the index. -/
lemma computed_of_register (registered : register index p = .ok q) : Computed index p q := by
  cases found : Keyed.get? (p.id, p.identity) index with
  | none =>
    have absent : Keyed.has (p.id, p.identity) index = false := by rw [Keyed.has, found]; rfl
    rw [register_of_none found] at registered
    cases registered
    exact ⟨rfl, rfl, absent.symm, found.symm, by rw [absent]; rfl⟩
  | some r =>
    have there : Keyed.has (p.id, p.identity) index = true := by rw [Keyed.has, found]; rfl
    rw [register_of_some found] at registered
    obtain ⟨user, -, rfl⟩ := map_eq_ok.mp registered
    exact ⟨rfl, rfl, there.symm, found.symm, by rw [there]; rfl⟩

/-- A provider can be registered by an index of runners that name their users. -/
lemma exists_register
    (indexed : ∀ e ∈ index, ∃ key, providerKey? e.2 = .ok (some key)) (p : Provider) :
    ∃ q, register index p = .ok q := by
  cases found : Keyed.get? (p.id, p.identity) index with
  | none => exact ⟨_, register_of_none found⟩
  | some r =>
    obtain ⟨key, keyed⟩ := indexed _ (Keyed.mem_of_get? found)
    obtain ⟨user, named⟩ := exists_userIdentity keyed
    exact ⟨_, (register_of_some found).trans (by rw [named]; rfl)⟩

/-- Among at most one entry of an owner, the first one is any of them. -/
lemma find?_owner_iff {o : Owner} (single : (ms.filter fun m => m.owner = o).length ≤ 1) :
    ms.find? (fun m => m.owner = o) = some m ↔ m ∈ ms ∧ m.owner = o := by
  rw [← List.head?_filter]
  have mem : m ∈ ms.filter (fun m => m.owner = o) ↔ m ∈ ms ∧ m.owner = o := by simp
  rw [← mem]
  generalize ms.filter (fun m => m.owner = o) = entries at single
  rcases entries with _ | ⟨e, _ | ⟨e', rest⟩⟩
  · simp
  · simp [eq_comm]
  · simp at single

/-- A runner registers the provider that the first provider entry of its label supplies, in both
identifier and identity, and no other one. With one provider entry at most this is the provider that
any of its provider entries supplies. -/
theorem registered_by_first_entry (read : r.label.read = .ok ms) (p : Provider) :
    ∃ index q, RunnerIndex.ofRunners [r] = .ok index ∧ register index p = .ok q ∧
      (q.registered = true ↔ ∃ m, ms.find? (fun m => m.owner = .provider) = some m ∧
        m.given? "id" = some p.id ∧ m.given? "provider_identity" = some p.identity) ∧
      ((ms.filter fun m => m.owner = .provider).length ≤ 1 →
        (q.registered = true ↔ ∃ m ∈ ms, m.owner = .provider ∧
          m.given? "id" = some p.id ∧ m.given? "provider_identity" = some p.identity)) := by
  have readable := readableModels_of_read read
  obtain rfl := models_of_readable readable
  have keyed := providerKey?_of_readable readable
  have indexed := ofRunners_singleton keyed
  have named : ∀ e ∈ (((r.label.models.find? fun m => m.owner = .provider).bind
      Model.reference?).toList.map fun key => (key, r)),
      ∃ key, providerKey? e.2 = .ok (some key) := by
    intro e mem
    obtain ⟨key, given, rfl⟩ := List.mem_map.mp mem
    exact ⟨key, keyed.trans (by rw [Option.mem_toList.mp given])⟩
  obtain ⟨q, registered⟩ := exists_register named p
  have first : q.registered = true ↔
      ∃ m, r.label.models.find? (fun m => m.owner = .provider) = some m ∧
        m.given? "id" = some p.id ∧ m.given? "provider_identity" = some p.identity := by
    rw [(computed_of_register registered).registered, Keyed.has_eq_true]
    simp only [← Model.reference?_eq_some, ← Option.bind_eq_some_iff]
    cases (r.label.models.find? fun m => m.owner = .provider).bind Model.reference? <;>
      simp [Keyed.keys, eq_comm]
  refine ⟨_, q, indexed, registered, first, fun single => first.trans ?_⟩
  simp only [find?_owner_iff single, and_assoc]

namespace Sample

/-- A provider as the service lists it. -/
def listed (id identity : Text) : Provider where
  id
  identity
  ipType := .residential
  country := .str "DE"
  userIdentity := none
  status := none
  ip := none
  quality := .null
  bandwidth := .null
  latency := .null
  runner := none
  registered := false
  insertDate := none

/-- A label entry that refers to a provider. -/
def providerEntry (id identity : Text) : Option Entry :=
  some ⟨.str "provider", [("id", .str id), ("provider_identity", .str identity)]⟩

/-- A node that two providers own. -/
def ownedTwice : Runner :=
  .template .identity (.many [providerEntry "A" "0xa", providerEntry "B" "0xb"])

end Sample

/-- A node that two providers own registers the one whose entry comes first. -/
theorem first_owner_registered : ∃ index q, RunnerIndex.ofRunners [Sample.ownedTwice] = .ok index ∧
    register index (Sample.listed "A" "0xa") = .ok q ∧ q.registered = true := by
  have read : Sample.ownedTwice.label.read = .ok _ := rfl
  obtain ⟨index, q, indexed, registered, first, -⟩ :=
    registered_by_first_entry read (Sample.listed "A" "0xa")
  exact ⟨index, q, indexed, registered, first.mpr ⟨_, rfl, rfl, rfl⟩⟩

/-- It does not register the other one, although an entry supplies its identifier and identity. -/
theorem second_owner_not_registered : ∃ ms index q, Sample.ownedTwice.label.read = .ok ms ∧
    RunnerIndex.ofRunners [Sample.ownedTwice] = .ok index ∧
    register index (Sample.listed "B" "0xb") = .ok q ∧ q.registered = false ∧
    ∃ m ∈ ms, m.owner = .provider ∧ m.given? "id" = some "B" ∧
      m.given? "provider_identity" = some "0xb" :=
  ⟨_, _, _, rfl, rfl, rfl, rfl, _, List.mem_cons_of_mem _ List.mem_cons_self, rfl, rfl, rfl⟩

/-! ## What is computed anew -/

/-- A provider that no runner registers keeps its status, whatever it is. -/
lemma unregistered_eq (alike : p.stored = q.stored) (status : p.status = q.status) :
    unregistered p = unregistered q := by
  show { p.stored with status := p.status } = { q.stored with status := q.status }
  rw [alike, status]

/-- What is stored of a provider is all that registering depends on. -/
lemma registeredBy_eq (alike : p.stored = q.stored) (r : Runner) (user : Option Text) :
    registeredBy r user p = registeredBy r user q := by
  show registeredBy r user p.stored = registeredBy r user q.stored
  rw [alike]

/-- Registering a provider gives the same whatever an earlier registration left there, but for the
status of a provider that is not registered any more. -/
theorem registration_recomputed (a b : RunnerIndex) (p q : Provider) :
    (p.stored = q.stored →
      (register b p).map Provider.withoutStatus = (register b q).map Provider.withoutStatus ∧
      (Keyed.has (p.id, p.identity) b = true ∨ p.status = q.status →
        register b p = register b q)) ∧
    ((∀ e ∈ b, ∃ key, providerKey? e.2 = .ok (some key)) → ∀ p', register a p = .ok p' →
      ∃ once twice, register b p = .ok once ∧ register b p' = .ok twice ∧
        twice.registered = once.registered ∧ twice.runner = once.runner ∧
        (Keyed.has (p.id, p.identity) b = true ∨ p'.status = p.status →
          twice.status = once.status)) := by
  constructor
  · intro alike
    have key : (p.id, p.identity) = (q.id, q.identity) := by
      show (p.stored.id, p.stored.identity) = (q.stored.id, q.stored.identity)
      rw [alike]
    cases found : Keyed.get? (p.id, p.identity) b with
    | none =>
      rw [register_of_none found, register_of_none (key ▸ found)]
      refine ⟨congrArg Except.ok alike, ?_⟩
      rintro (there | status)
      · rw [Keyed.has, found] at there
        cases there
      · rw [unregistered_eq alike status]
    | some r =>
      have same : register b p = register b q := by
        rw [register_of_some found, register_of_some (key ▸ found)]
        simp only [registeredBy_eq alike]
      exact ⟨congrArg _ same, fun _ => same⟩
  · intro complete p' registered
    obtain ⟨once, first⟩ := exists_register complete p
    obtain ⟨twice, second⟩ := exists_register complete p'
    have before := computed_of_register registered
    have one := computed_of_register first
    have two := computed_of_register second
    have key : (p'.id, p'.identity) = (p.id, p.identity) := by rw [before.id, before.identity]
    refine ⟨once, twice, first, second, ?_, ?_, ?_⟩
    · rw [two.registered, one.registered, key]
    · rw [two.runner, one.runner, key]
    · rw [two.status, one.status, key]
      rintro (there | status)
      · rw [if_pos there, if_pos there]
      · rw [status]

namespace Sample

/-- A provider that a runner registered earlier. -/
def formerly : Provider := { listed "A" "0xa" with status := some .online }

/-- An index that has the node under the first of its owners. -/
def owners : RunnerIndex := [(("A", "0xa"), ownedTwice)]

/-- Both owners have a key. -/
lemma owners_named : ∀ e ∈ owners, ∃ key, providerKey? e.2 = .ok (some key) := by
  intro e mem
  cases List.mem_singleton.mp mem
  exact ⟨("A", "0xa"), rfl⟩

end Sample

/-- With its runner there again, a provider is registered as if it had never been before. -/
theorem registered_again : ∃ p once twice,
    register Sample.owners Sample.formerly = .ok p ∧
    register Sample.owners Sample.formerly = .ok once ∧ register Sample.owners p = .ok twice ∧
    twice.registered = once.registered ∧ twice.runner = once.runner ∧
    twice.status = once.status := by
  have before : register Sample.owners Sample.formerly = .ok _ := rfl
  obtain ⟨once, twice, first, second, registered, runner, status⟩ :=
    (registration_recomputed Sample.owners Sample.owners _ (Sample.listed "A" "0xa")).2
      Sample.owners_named _ before
  exact ⟨_, once, twice, before, first, second, registered, runner, status (.inl rfl)⟩

/-- Without its runner a provider keeps the status that it was registered with: two providers that
differ in what is computed for them alone are told apart, and one that was registered before is not
the same as one that never was. -/
theorem former_status_kept :
    Sample.formerly.stored = (Sample.listed "A" "0xa").stored ∧
    register [] Sample.formerly ≠ register [] (Sample.listed "A" "0xa") ∧
    ∃ p, register Sample.owners (Sample.listed "A" "0xa") = .ok p ∧
      (register [] p).map Provider.status ≠
        (register [] (Sample.listed "A" "0xa")).map Provider.status := by
  refine ⟨rfl, ?_, _, rfl, ?_⟩
  · intro same
    cases congrArg (Except.map Provider.status) same
  · intro same
    cases same

end Catalogue

end ProxyFleet
