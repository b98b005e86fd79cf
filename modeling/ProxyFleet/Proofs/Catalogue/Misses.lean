import ProxyFleet.Proofs.Catalogue.Cache

/-!
# Misses of the identity cache

A search asks the store once. An identifier for which nothing is kept and a store that fails as
stores do are misses, and the search is left to the source; an identity that is kept turns it into
a listing of the source. Whatever else happens to the reading is not caught: bytes that are no text
and failures of other kinds end the search before the source is asked.
-/

namespace ProxyFleet.Catalogue.Cache

/-! ## What reading the store comes to -/

/-- Whether reading the store tells nothing of an identifier: nothing is kept for it, or the store
fails as stores do. -/
inductive Missed (store : Store) (i : Text) : Prop where
  | unkept : store.failure? "get" (key i) = none → Keyed.get? (key i) store.entries = none →
    Missed store i
  | failed {kind text} : store.failure? "get" (key i) = some (.store kind text) → Missed store i

/-- Whether reading the store gives the identity of an identifier, which is kept as a text or as
bytes. -/
inductive Kept (store : Store) (i : Text) : Text → Prop where
  | text {identity} : store.failure? "get" (key i) = none →
    Keyed.get? (key i) store.entries = some (.text identity) → Kept store i identity
  | bytes {b identity} : store.failure? "get" (key i) = none →
    Keyed.get? (key i) store.entries = some (.bytes b) → Text.ofUtf8? b = some identity →
    Kept store i identity

/-- Whether reading the store for an identifier fails in a way that is not taken for a miss: what is
kept is no text, or the failure is none of stores. -/
inductive Unreadable (store : Store) (i : Text) : Failure → Prop where
  | bytes {b} : store.failure? "get" (key i) = none →
    Keyed.get? (key i) store.entries = some (.bytes b) → Text.ofUtf8? b = none →
    Unreadable store i .undecodable
  | failed {e} : store.failure? "get" (key i) = some e → (∀ kind text, e ≠ .store kind text) →
    Unreadable store i e

variable {i identity : Text} {e : Failure} {w : World}

/-- Reading the store ends in one of these ways. -/
lemma read_cases (store : Store) (i : Text) :
    Missed store i ∨ (∃ identity, Kept store i identity) ∨ ∃ e, Unreadable store i e := by
  rcases failure : store.failure? "get" (key i) with _ | e
  · rcases found : Keyed.get? (key i) store.entries with _ | identity | b
    · exact .inl (.unkept failure found)
    · exact .inr (.inl ⟨identity, .text failure found⟩)
    · rcases decoded : Text.ofUtf8? b with _ | identity
      · exact .inr (.inr ⟨_, .bytes failure found decoded⟩)
      · exact .inr (.inl ⟨identity, .bytes failure found decoded⟩)
  · by_cases foreign : ∀ kind text, e ≠ .store kind text
    · exact .inr (.inr ⟨e, .failed failure foreign⟩)
    · push Not at foreign
      obtain ⟨kind, text, rfl⟩ := foreign
      exact .inl (.failed failure)

/-- A world after its store has been asked for an identifier. -/
def asked (i : Text) (w : World) : World := { w with store := w.store.note (.get (key i)) }

/-- An identifier that is missed has no identity. -/
lemma Missed.identityOf (h : Missed w.store i) : identityOf i w = (.ok none, asked i w) := by
  rw [run_identityOf, Store.get]
  cases h with
  | unkept failure found => simp only [failure, found]; rfl
  | failed failure => simp only [failure]; rfl

/-- An identifier that is kept has its identity. -/
lemma Kept.identityOf (h : Kept w.store i identity) :
    identityOf i w = (.ok (some identity), asked i w) := by
  rw [run_identityOf, Store.get]
  cases h with
  | text failure found => simp only [failure, found]; rfl
  | bytes failure found decoded =>
    simp only [failure, found, Stored.read, Docker.decode, decoded]
    rfl

/-- An entry that cannot be read is a failure. -/
lemma Unreadable.identityOf (h : Unreadable w.store i e) :
    identityOf i w = (.error e, asked i w) := by
  rw [run_identityOf, Store.get]
  cases h with
  | bytes failure found decoded =>
    simp only [failure, found, Stored.read, Docker.decode, decoded]
    rfl
  | failed failure foreign =>
    simp only [failure]
    cases e with
    | store kind text => exact absurd rfl (foreign kind text)
    | _ => rfl

/-! ## Searches -/

/-- A search that misses is that of the source. -/
lemma Missed.getById (h : Missed w.store i) (source : Source) :
    getById source i w = source.getById i (asked i w) := by
  rw [run_getById, h.identityOf]

/-- A search for an identifier that is kept lists the proposals of its identity. -/
lemma Kept.getById (h : Kept w.store i identity) (source : Source) : getById source i w =
    ((source.getAll (ofIdentity identity) (asked i w)).1.map (·.items.head?),
      (source.getAll (ofIdentity identity) (asked i w)).2) := by
  rw [run_getById, h.identityOf]

/-- A search that meets an entry that cannot be read fails with it. -/
lemma Unreadable.getById (h : Unreadable w.store i e) (source : Source) :
    getById source i w = (.error e, asked i w) := by
  rw [run_getById, h.identityOf]

/-- A search fails as its source does, unless the store cannot be read: a miss is answered by the
source, and for an identity that is kept the source is asked for a listing. What is kept and is no
text, and a failure that is none of stores, end the search. -/
theorem search_fails_as_source (source : Source) (i : Text) (w : World) :
    (Missed w.store i → getById source i w = source.getById i (asked i w)) ∧
    (∀ e, Unreadable w.store i e → getById source i w = (.error e, asked i w)) ∧
    ∀ e, (getById source i w).1 = .error e → Unreadable w.store i e ∨
      (source.getById i (asked i w)).1 = .error e ∨
      ∃ identity, Kept w.store i identity ∧
        (source.getAll (ofIdentity identity) (asked i w)).1 = .error e := by
  refine ⟨fun missed => missed.getById source, fun e unreadable => unreadable.getById source,
    fun e failed => ?_⟩
  rcases read_cases w.store i with missed | ⟨identity, kept⟩ | ⟨e', unreadable⟩
  · rw [missed.getById source] at failed
    exact .inr (.inl failed)
  · rw [kept.getById source] at failed
    exact .inr (.inr ⟨identity, kept, map_eq_error.mp failed⟩)
  · rw [unreadable.getById source] at failed
    cases failed
    exact .inl unreadable

namespace Sample

open Catalogue.Sample

/-- A world without proposals, whose store keeps a byte that is no text for the first provider. -/
def garbled : World := world "[]" [(key firstId, .bytes ⟨#[0xff]⟩)]

/-- The entry of bytes that are no text cannot be read. -/
lemma unreadable_garbled : Unreadable garbled.store firstId .undecodable :=
  .bytes rfl rfl (by decide +kernel)

/-- A world without proposals, whose store refuses connections. -/
def refusing : World :=
  { world "[]" [] with
    store := ⟨[], [("get", .store "ConnectionError" "connection refused")], []⟩ }

end Sample

/-- When the store refuses connections, the source says that there is no such provider. -/
theorem refused_search_misses :
    getById (Api.source Catalogue.Sample.api) Catalogue.Sample.firstId Sample.refusing =
      (Api.source Catalogue.Sample.api).getById Catalogue.Sample.firstId
        (asked Catalogue.Sample.firstId Sample.refusing) := by
  obtain ⟨missed, -⟩ := search_fails_as_source (Api.source Catalogue.Sample.api)
    Catalogue.Sample.firstId Sample.refusing
  exact missed (.failed rfl)

/-- A byte that is no text makes a search fail to which the source has an answer. -/
theorem garbled_search_fails :
    (getById (Api.source Catalogue.Sample.api) Catalogue.Sample.firstId Sample.garbled).1 =
        .error .undecodable ∧
      ((Api.source Catalogue.Sample.api).getById Catalogue.Sample.firstId
        (asked Catalogue.Sample.firstId Sample.garbled)).1 = .ok none := by
  have answer : (Web.nextReply Sample.garbled.web.replies).1.document Catalogue.Sample.api.url =
      .ok (.arr []) := rfl
  refine ⟨?_, ?_⟩
  · rw [Sample.unreadable_garbled.getById]
  · have none : (fetch Catalogue.Sample.api baseParams Sample.garbled.web).1 = .ok [] :=
      fetch_ok answer (List.forall_mem_nil _)
    rw [Api.run_getById]
    exact map_eq_ok.mpr ⟨[], none, rfl⟩

end ProxyFleet.Catalogue.Cache
