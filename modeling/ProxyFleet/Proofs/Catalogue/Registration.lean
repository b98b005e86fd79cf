import ProxyFleet.Catalogue.Registry
import ProxyFleet.Proofs.Boundary
import ProxyFleet.Proofs.Label.Flattening

/-!
# Registration by the first runner

The index of runners is a detail: a provider is registered by the first runner whose label supplies
both its identifier and its identity, and labels that cannot be read count as empty. Registering
never breaks down as long as labels hold scalar values.
-/

namespace ProxyFleet

variable {l : Label} {m : Model} {ms : List Model} {o : Owner} {name t : Text}

/-! ## What labels supply -/

/-- The models of a label, none of them when it cannot be read. -/
def Label.models (l : Label) : List Model := l.read.toOption.getD []

/-- The text that the entries of an owner supply for a field. -/
def Label.given? (l : Label) (owner : Owner) (name : Text) : Option Text :=
  l.models.findSome? fun m => if m.owner = owner then m.given? name else none

/-- Whether a label has scalar values and at most one entry for each kind of owner. -/
structure Label.Plain (l : Label) : Prop where
  scalar : l.Scalar
  distinct : (l.models.map Model.owner).Nodup

/-- The models of a label are well-formed, those of an unreadable one being none. -/
lemma Label.wellFormed_models (l : Label) : ∀ m ∈ l.models, m.WellFormed := by
  unfold models
  cases read : l.read with
  | error e => exact nofun
  | ok ms => exact wellFormed_of_read read

namespace Model

/-- The identifier and the identity that an entry supplies, if it supplies both. -/
def reference? (m : Model) : Option (Text × Text) := do
  let id ← m.given? "id"
  let identity ← m.given? "provider_identity"
  return (id, identity)

/-- Of two fields none is missing when neither is left at its default. -/
lemma missing_pair {first second : Text} : (m.missing [first, second]).isEmpty =
    (!m.isDefault first && !m.isDefault second) := by
  cases h : m.isDefault first <;> cases h' : m.isDefault second <;> simp [missing, h, h']

end Model

/-- A field that the first model of an owner supplies has the text of the model. -/
lemma Label.given?_of_find (l : Label) (found : l.models.find? (fun m => m.owner = o) = some m)
    (known : name ∈ o.fields.map Field.name) :
    m.given? name = if m.isDefault name then none else some (m.text name) := by
  have owner : m.owner = o := by simpa using List.find?_some found
  exact (l.wellFormed_models m (List.mem_of_find?_eq_some found)).given?_eq (owner ▸ known)

/-- Among entries of different owners the first one of an owner is the only one. -/
lemma findSome?_owner {g : Model → Option Text} (distinct : (ms.map Model.owner).Nodup) :
    (ms.findSome? fun m => if m.owner = o then g m else none) =
      (ms.find? fun m => m.owner = o).bind g := by
  induction ms with
  | nil => rfl
  | cons m rest ih =>
    obtain ⟨other, distinct⟩ := List.nodup_cons.mp distinct
    by_cases owner : m.owner = o
    · have none : (rest.find? fun m => m.owner = o) = none := by
        refine List.find?_eq_none.mpr fun m' mem same => other ?_
        exact List.mem_map.mpr ⟨m', mem, (of_decide_eq_true same).trans owner.symm⟩
      rw [List.findSome?_cons, List.find?_cons_of_pos (by simpa using owner), if_pos owner,
        ih distinct, none, Option.bind_some]
      cases g m <;> rfl
    · rw [List.findSome?_cons, List.find?_cons_of_neg (by simpa using owner), if_neg owner,
        ih distinct]

namespace Label.Plain

/-- A plain label gives a field what its one model of the owner does. -/
lemma given?_eq (plain : l.Plain) (o : Owner) (name : Text) :
    l.given? o name = (l.models.find? fun m => m.owner = o).bind (·.given? name) :=
  findSome?_owner plain.distinct

end Label.Plain

namespace Catalogue

variable {r : Runner} {rs : List Runner} {p : Provider} {index : RunnerIndex}

/-! ## The first runner counts -/

/-- The identifier and the identity of the provider that a runner's label refers to. -/
def reference? (r : Runner) : Option (Text × Text) := do
  let id ← r.label.given? .provider "id"
  let identity ← r.label.given? .provider "provider_identity"
  return (id, identity)

/-- The user that a runner's label names: in its identity entry, else in its provider entry. -/
def userOf? (r : Runner) : Option Text :=
  (r.label.given? .identity "identity").or (r.label.given? .provider "user_identity")

/-- A runner that refers to a provider supplies its identifier. -/
lemma given?_of_reference? {id identity : Text} (refers : reference? r = some (id, identity)) :
    r.label.given? .provider "id" = some id := by
  obtain ⟨id, supplied, refers⟩ := Option.bind_eq_some_iff.mp refers
  obtain ⟨identity, -, refers⟩ := Option.bind_eq_some_iff.mp refers
  cases refers
  exact supplied

/-- A provider as runners register it: by the first one that refers to it, if there is any. -/
def joined (rs : List Runner) (p : Provider) : Provider :=
  match rs.find? fun r => reference? r = some (p.id, p.identity) with
  | none => { p with registered := false, runner := none }
  | some r =>
    { p with
      registered := true
      status := some .online
      runner := some r
      userIdentity := ((userOf? r).filter fun user => !user.isEmpty).or p.userIdentity }

/-- A plain label is readable or has no models. -/
lemma readableModels_eq (plain : r.label.Plain) : readableModels r = .ok r.label.models := by
  unfold readableModels Label.models
  cases read : r.label.read with
  | error e =>
    have fleet := plain.scalar.read_fleet e read
    simp [fleet, Except.toOption]
  | ok ms => rfl

/-- A runner is indexed by what the first provider entry of its label supplies. -/
lemma providerKey?_of_readable (readable : readableModels r = .ok r.label.models) :
    providerKey? r = .ok ((r.label.models.find? fun m => m.owner = .provider).bind
      Model.reference?) := by
  unfold providerKey?
  rw [readable, ok_bind]
  cases found : r.label.models.find? fun m => m.owner = .provider with
  | none => rfl
  | some m =>
    have id : m.given? "id" = _ := r.label.given?_of_find found (by decide)
    have identity : m.given? "provider_identity" = _ := r.label.given?_of_find found (by decide)
    simp only [Model.missing_pair, Option.bind_some, Model.reference?, id, identity]
    cases m.isDefault "id" <;> cases m.isDefault "provider_identity" <;> rfl

/-- A runner with a plain label is indexed under the provider that it refers to. -/
lemma providerKey?_eq (plain : r.label.Plain) : providerKey? r = .ok (reference? r) := by
  rw [providerKey?_of_readable (readableModels_eq plain), reference?, plain.given?_eq,
    plain.given?_eq]
  cases r.label.models.find? fun m => m.owner = .provider <;> rfl

/-- In an index, what was there before counts first, then the first runner with a reference. -/
lemma get?_indexRunners (plain : ∀ r ∈ rs, r.label.Plain) (index : RunnerIndex) :
    ∃ index', indexRunners index rs = .ok index' ∧ ∀ key, Keyed.get? key index' =
      (Keyed.get? key index).or (rs.find? fun r => reference? r = some key) := by
  -- the index is general, so that it may hold the runners before
  induction rs generalizing index with
  | nil => exact ⟨index, rfl, fun key => by simp⟩
  | cons r rest ih =>
    have others := fun r' mem => plain r' (List.mem_cons_of_mem _ mem)
    rw [indexRunners, providerKey?_eq (plain r List.mem_cons_self), ok_bind]
    cases refers : reference? r with
    | none =>
      obtain ⟨index', indexed, found⟩ := ih others index
      refine ⟨index', indexed, fun key => ?_⟩
      rw [found, List.find?_cons_of_neg (by simp [refers])]
    | some known =>
      obtain ⟨index', indexed, found⟩ := ih others (Keyed.putNew known r index)
      refine ⟨index', indexed, fun key => ?_⟩
      rw [found, Keyed.get?_putNew, Option.or_assoc]
      by_cases same : known = key
      · rw [if_pos same, List.find?_cons_of_pos (by simp [refers, same])]
        rfl
      · rw [if_neg same, List.find?_cons_of_neg (by simp [refers, same])]
        rfl

/-- Runners with plain labels have an index, in which a key belongs to the first that refers to
it. -/
lemma exists_index (plain : ∀ r ∈ rs, r.label.Plain) :
    ∃ index, RunnerIndex.ofRunners rs = .ok index ∧ ∀ key,
      Keyed.get? key index = rs.find? fun r => reference? r = some key :=
  get?_indexRunners plain []

/-- A label with a model of a provider has been read. -/
lemma read_of_find (found : r.label.models.find? (fun m => m.owner = .provider) = some m) :
    r.label.read = .ok r.label.models := by
  unfold Label.models at found ⊢
  cases read : r.label.read with
  | error e => simp [read, Except.toOption] at found
  | ok ms => rfl

/-- The user that a runner works for is named by the first entries of its label. -/
lemma userIdentity_of_find (found : r.label.models.find? (fun m => m.owner = .provider) = some m) :
    userIdentity r = .ok (((r.label.models.find? fun m => m.owner = .identity).bind
      (·.given? "identity")).or (m.given? "user_identity")) := by
  have ofProvider : m.given? "user_identity" = _ := r.label.given?_of_find found (by decide)
  unfold userIdentity Model.find
  rw [read_of_find found, ok_bind, found, ofProvider]
  cases found' : r.label.models.find? fun m => m.owner = .identity with
  | none => rfl
  | some identity =>
    have ofIdentity : identity.given? "identity" = _ := r.label.given?_of_find found' (by decide)
    rw [Option.bind_some, ofIdentity]
    dsimp only
    by_cases absent : identity.isDefault "identity" = true
    · rw [if_pos absent, if_pos absent]
      rfl
    · rw [if_neg absent, if_neg absent]
      rfl

/-- The user of a runner that refers to a provider is that of its plain label. -/
lemma userIdentity_eq (plain : r.label.Plain) (refers : (reference? r).isSome) :
    userIdentity r = .ok (userOf? r) := by
  obtain ⟨⟨id, identity⟩, refers⟩ := Option.isSome_iff_exists.mp refers
  have supplied := given?_of_reference? refers
  rw [plain.given?_eq] at supplied
  obtain ⟨provider, found, -⟩ := Option.bind_eq_some_iff.mp supplied
  rw [userIdentity_of_find found, userOf?, plain.given?_eq, plain.given?_eq, found,
    Option.bind_some]

/-- Registering by an index is registering by the first runner that refers to the provider. -/
lemma register_eq (plain : ∀ r ∈ rs, r.label.Plain)
    (found : ∀ key, Keyed.get? key index = rs.find? fun r => reference? r = some key)
    (p : Provider) : register index p = .ok (joined rs p) := by
  unfold register joined
  rw [found]
  cases first : rs.find? fun r => reference? r = some (p.id, p.identity) with
  | none => rfl
  | some r =>
    have refers : reference? r = some (p.id, p.identity) := by simpa using List.find?_some first
    have user := userIdentity_eq (plain r (List.mem_of_find?_eq_some first)) (by rw [refers]; rfl)
    simp only [user, ok_bind]
    rfl

/-! ## The join -/

/-- Providers are registered one by one, each by the first runner that refers to it. -/
lemma registerAll_eq (plain : ∀ r ∈ rs, r.label.Plain)
    (found : ∀ key, Keyed.get? key index = rs.find? fun r => reference? r = some key)
    (ps : List Provider) : registerAll index ps = .ok (ps.map (joined rs)) := by
  unfold registerAll
  induction ps with
  | nil => rfl
  | cons p rest ih =>
    rw [List.mapM_cons, register_eq plain found, ok_bind, ih]
    rfl

/-- The listing of the registry is that of the providers as runners register them. -/
theorem Registry.joinAll_eq (plain : ∀ r ∈ rs, r.label.Plain) (f : Filter) (ps : List Provider) :
    Registry.joinAll f ps rs = Listing.ofFilter Provider.attr none f (ps.map (joined rs)) := by
  obtain ⟨index, indexed, found⟩ := exists_index plain
  unfold Registry.joinAll
  rw [indexed, ok_bind, registerAll_eq plain found, ok_bind]

/-- A single provider is registered as it is in a list. -/
theorem Registry.joinOne_eq (plain : ∀ r ∈ rs, r.label.Plain) (p : Option Provider) :
    Registry.joinOne p rs = .ok (p.map (joined rs)) := by
  cases p with
  | none => rfl
  | some p =>
    obtain ⟨index, indexed, found⟩ := exists_index plain
    unfold Registry.joinOne
    simp only [indexed, ok_bind, register_eq plain found]
    rfl

/-- Registering a provider leaves alone what it is found by. -/
lemma attr_joined {field : Text} (given : field ∈ ("id" : Text) :: pushedFields.map Prod.fst) :
    (joined rs p).attr field = p.attr field := by
  unfold joined
  simp only [pushedFields, List.map_cons, List.map_nil, List.mem_cons, List.not_mem_nil,
    or_false] at given
  split <;> rcases given with rfl | rfl | rfl | rfl <;> rfl

end Catalogue

end ProxyFleet
