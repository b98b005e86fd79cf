import Mathlib.Data.List.Find
import Mathlib.Data.Set.Function
import ProxyFleet.Proofs.Catalogue.Cache

/-!
# Searching with and without the cache

A remembered identity turns the search through all proposals into a request for the proposals of
this identity. Both find the same provider, as long as identities are told apart by the identifiers
that are derived from them.
-/

namespace ProxyFleet.Catalogue.Cache

variable {s : ApiSettings} {R : List Json} {p : Provider} {i identity : Text} {w w' : World}

/-- The identities that proposals name. -/
def identitiesOf (R : List Json) : Set Text :=
  {identity | ∃ row ∈ R, row.member? "provider_id" = some (.str identity)}

/-- The identities that a store remembers. -/
def remembered (store : Store) : Set Text :=
  {identity | ∃ id stored, Keyed.get? (key id) store.entries = some stored ∧
    stored.read = .ok identity}

/-- Looking for an identity in the store asks the service for nothing. -/
lemma web_identityOf (i : Text) (w : World) : (identityOf i w).2.web = w.web := by
  rw [run_identityOf]

/-- The request for an identity compares with a text. -/
lemma textual_ofIdentity (identity : Text) : Textual (ofIdentity identity) := by
  intro c mem _
  cases List.mem_singleton.mp mem
  exact ⟨identity, rfl⟩

/-- When its identity is remembered, an identifier is searched for by a request for the identity. -/
lemma log_getById_of_known (known : (identityOf i w).1 = .ok (some identity)) :
    (getById (Api.source s) i w).2.web.log =
      w.web.log ++ [s.request (paramsOf (ofIdentity identity))] := by
  rw [run_getById, known, ← web_identityOf i w]
  exact Api.log_getAll (textual_ofIdentity identity).hasParams s _

/-- Without the cache the first proposal with the identifier is found. -/
lemma getById_of_served (proposals : ∀ row ∈ R, IsProposal row)
    (served : Served s R ((Api.source s).getById i) w) :
    ((Api.source s).getById i w).1 = .ok ((providersOf s.now R).find? fun p => p.id == i) := by
  obtain ⟨rows, answer, serves⟩ := served _ (Api.log_getById s i w)
  cases serves.eq
  rw [Api.run_getById, fetch_ok answer proposals]
  rfl

/-- Asked for an identity, the service lists its providers first to last. -/
lemma head?_of_served (proposals : ∀ row ∈ R, IsProposal row)
    (served : Served s R ((Api.source s).getAll (ofIdentity identity)) w) :
    ((Api.source s).getAll (ofIdentity identity) w).1.map (·.items.head?) =
      .ok ((providersOf s.now R).find? fun p => p.identity == identity) := by
  obtain ⟨total, listed⟩ :=
    getAll_of_served proposals (textual_ofIdentity identity) served rfl rfl rfl
  rw [listed]
  refine congrArg Except.ok ?_
  show (Listing.select Provider.attr [⟨"provider_identity", .json (.str identity)⟩] _).head? = _
  rw [Listing.select, List.head?_filter]
  congr 1
  funext p
  show ((Value.ofJson (.str p.identity)).same (.str identity) && true) = _
  rw [Bool.and_true, Bool.eq_iff_iff, beq_iff_eq, Value.same_str, Json.str.injEq]

/-- Whether the identity of an identifier is remembered, forgotten, or cannot be read at the moment,
a search with the cache finds what a search without it finds. -/
theorem cached_search_eq (proposals : ∀ row ∈ R, IsProposal row) (sound : Sound w.store)
    (injective : Set.InjOn nameId? (identitiesOf R ∪ remembered w.store))
    (failures : ∀ e, w.store.failure? "get" (key i) = some e → ∃ kind text, e = .store kind text)
    (cached : Served s R (getById (Api.source s) i) w)
    (uncached : Served s R ((Api.source s).getById i) w') :
    ∃ found, (getById (Api.source s) i w).1 = .ok found ∧
      ((Api.source s).getById i w').1 = .ok found := by
  refine ⟨_, ?_, getById_of_served proposals uncached⟩
  obtain ⟨known, outcome⟩ := sound.exists_identityOf failures
  unfold Served at cached
  rw [run_getById, outcome, ← web_identityOf i w] at cached
  rw [run_getById, outcome]
  cases known with
  | none => exact getById_of_served proposals cached
  | some identity =>
    refine (head?_of_served proposals cached).trans (congrArg Except.ok (List.find?_congr ?_))
    have derived := sound.nameId?_eq outcome
    obtain ⟨stored, kept, read⟩ := exists_stored outcome
    -- among the proposals only the remembered identity derives the identifier
    intro p mem
    obtain ⟨row, given, read'⟩ := mem_providersOf.mp mem
    have names := names_of_read read'
    rw [Bool.eq_iff_iff, beq_iff_eq, beq_iff_eq]
    constructor
    · rintro rfl
      exact Option.some.inj (names.id.symm.trans derived)
    · rintro rfl
      exact injective (.inl ⟨row, given, names.identity⟩) (.inr ⟨p.id, stored, kept, read⟩)
        (names.id.trans derived.symm)

namespace Sample

open Catalogue.Sample

/-- The document with both proposals is read as the list of them. -/
lemma read_page : Docker.readDocument page = .ok (.arr proposals) := by cbv

/-- The identities of the proposals and of the store are those of the two proposals. -/
lemma eq_of_mem {identity : Text}
    (mem : identity ∈ identitiesOf proposals ∪ remembered remembering.store) :
    identity = "0xa" ∨ identity = "0xb" := by
  rcases mem with ⟨row, mem, named⟩ | ⟨id, stored, found, read⟩
  · rcases List.mem_pair.mp mem with rfl | rfl
    · exact .inl (Json.str.inj (Option.some.inj named)).symm
    · exact .inr (Json.str.inj (Option.some.inj named)).symm
  · obtain ⟨-, rfl⟩ := mem_remembering found
    exact .inl (Except.ok.inj read).symm

/-- The identifiers of both proposals tell their identities apart. -/
lemma injOn_nameId? :
    Set.InjOn nameId? (identitiesOf proposals ∪ remembered remembering.store) := by
  have different : nameId? "0xb" ≠ some firstId := by decide +kernel
  rw [← nameId?_first] at different
  intro x mem y mem' same
  rcases eq_of_mem mem with rfl | rfl <;> rcases eq_of_mem mem' with rfl | rfl
  · rfl
  · exact absurd same.symm different
  · exact absurd same different
  · rfl

end Sample

/-- The first provider is found by its remembered identity as it is found without it. -/
theorem first_cached_search_eq : ∃ found,
    (getById (Api.source Catalogue.Sample.api) Catalogue.Sample.firstId Sample.remembering).1 =
      .ok found ∧
    ((Api.source Catalogue.Sample.api).getById Catalogue.Sample.firstId Sample.remembering).1 =
      .ok found := by
  have known : (identityOf Catalogue.Sample.firstId Sample.remembering).1 = .ok (some "0xa") := rfl
  have served : ∀ {x : World.Run (Option Provider)} {params : List (Text × Text)},
      (x Sample.remembering).2.web.log =
        Sample.remembering.web.log ++ [Catalogue.Sample.api.request params] →
      Served Catalogue.Sample.api Catalogue.Sample.proposals x Sample.remembering :=
    fun asked => .of_asked asked ((Catalogue.Sample.document_world _ _).trans Sample.read_page)
      (.refl _ _)
  exact cached_search_eq Catalogue.Sample.isProposal_of_mem Sample.sound_remembering
    Sample.injOn_nameId? nofun (served (log_getById_of_known known)) (served (Api.log_getById ..))

end ProxyFleet.Catalogue.Cache
