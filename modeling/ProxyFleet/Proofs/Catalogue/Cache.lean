import ProxyFleet.Proofs.Catalogue.Join
import ProxyFleet.Proofs.Keyed

/-!
# The identity cache is sound

A store is sound if every identifier that it knows is derived from the identity that is kept for it.
Whatever the service answers and whichever commands of the store fail, calls keep the store sound.
That is why an identifier is never answered with another provider, although an identity that is
remembered is not compared with the identifier again, and why looking it up by its identity finds
what looking through all proposals finds.
-/

namespace ProxyFleet.Catalogue.Cache

variable {s : ApiSettings} {f : Filter} {store : Store} {p : Provider} {ps : List Provider}
  {i id identity : Text} {w w' : World} {listing : Listing Provider}

/-! ## What the cache does -/

/-- Different identifiers are kept under different keys. -/
lemma key_injective : Function.Injective key := fun _ _ h => List.append_cancel_left h

/-- Every key is let expire once, whichever of the commands fail, and nothing is written. -/
lemma expireAll_eq (keys : List Text) (store : Store) : expireAll keys store =
    { store with log := store.log ++ keys.map (.expire · lifetime) } := by
  induction keys generalizing store with
  | nil => rw [expireAll, List.map_nil, List.append_nil]
  | cons key rest ih =>
    rw [expireAll, ih, List.map_cons, List.append_cons]
    rfl

/-- When the pairs cannot be written, the store has only been asked to. -/
lemma remember_refused {e : Failure} (h : store.failureOf? "mset" = some e)
    (pairs : List (Text × Text)) : remember pairs store = store.note (.setAll pairs) := by
  unfold remember Store.setAll
  rw [h]

/-- Pairs that can be written are written, and their keys are let expire. -/
lemma remember_written (h : store.failureOf? "mset" = none) (pairs : List (Text × Text)) :
    remember pairs store = { store with
      entries := Keyed.putAll store.entries (pairs.map fun q => (q.1, .text q.2))
      log := store.log ++ .setAll pairs :: (Keyed.keys pairs).map (.expire · lifetime) } := by
  unfold remember Store.setAll
  rw [h]
  dsimp only
  rw [expireAll_eq, List.append_cons]
  rfl

/-- Either all pairs are written or none. -/
lemma entries_remember (pairs : List (Text × Text)) (store : Store) :
    (remember pairs store).entries = store.entries ∨ (remember pairs store).entries =
      Keyed.putAll store.entries (pairs.map fun q => (q.1, .text q.2)) := by
  cases failed : store.failureOf? "mset" with
  | some e => exact .inl (by rw [remember_refused failed]; rfl)
  | none => exact .inr (by rw [remember_written failed])

/-- Under a key that is written stands what is written there, under any other what stood before. -/
lemma get?_written {pairs : List (Text × Text)} (nodup : (Keyed.keys pairs).Nodup) (k : Text)
    (entries : List (Text × Stored)) :
    Keyed.get? k (Keyed.putAll entries (pairs.map fun q => (q.1, .text q.2))) =
      ((Keyed.get? k pairs).map Stored.text).or (Keyed.get? k entries) := by
  have keys : Keyed.keys (pairs.map fun q => (q.1, Stored.text q.2)) = Keyed.keys pairs := by
    simp [Keyed.keys]
  rw [Keyed.get?_putAll_of_nodup k (keys ▸ nodup), Keyed.get?_map fun _ t => Stored.text t]

/-- A listing with the cache is that of its source, remembered when there is one. -/
lemma run_getAll (source : Source) (f : Filter) (w : World) : getAll source f w =
    match source.getAll f w with
    | (.ok listing, w₁) => (.ok listing, (rememberAll listing.items w₁).2)
    | (.error e, w₁) => (.error e, w₁) := by
  rw [getAll, run_bind]
  rcases source.getAll f w with ⟨_ | listing, w₁⟩ <;> rfl

/-- What is remembered is what the store answers, if it does not fail as stores do. -/
lemma run_identityOf (i : Text) (w : World) : identityOf i w =
    (match (w.store.get (key i)).1 with
      | .error (.store _ _) => .ok none
      | outcome => outcome,
      { w with store := w.store.note (.get (key i)) }) := by
  have asked : w.store.get (key i) = ((w.store.get (key i)).1, w.store.note (.get (key i))) := rfl
  unfold identityOf World.onStore
  dsimp only
  rw [asked]
  rcases (w.store.get (key i)).1 with e | _
  · cases e <;> rfl
  · rfl

/-- The filter for the providers of an identity. -/
abbrev ofIdentity (identity : Text) : Filter :=
  Filter.everything.requireJson "provider_identity" (.str identity)

/-- An identifier that is not remembered is looked up in the source. -/
lemma run_getById (source : Source) (i : Text) (w : World) : getById source i w =
    match (identityOf i w).1 with
    | .error e => (.error e, (identityOf i w).2)
    | .ok none => source.getById i (identityOf i w).2
    | .ok (some identity) =>
      ((source.getAll (ofIdentity identity) (identityOf i w).2).1.map (·.items.head?),
        (source.getAll (ofIdentity identity) (identityOf i w).2).2) := by
  rw [getById, run_bind]
  rcases identityOf i w with ⟨_ | _ | identity, w₁⟩
  · rfl
  · rfl
  · dsimp only
    rw [run_bind]
    rcases source.getAll (ofIdentity identity) w₁ with ⟨_ | _, _⟩ <;> rfl

/-! ## Sound stores -/

/-- Whether every identifier that a store knows is derived from the identity kept for it. -/
def Sound (store : Store) : Prop :=
  ∀ id stored, Keyed.get? (key id) store.entries = some stored →
    ∃ identity, stored.read = .ok identity ∧ nameId? identity = some id

/-- Every identifier is remembered once. -/
lemma nodup_mapping (ps : List Provider) : (Keyed.keys (mapping ps)).Nodup := Keyed.nodup_ofList _

/-- What is remembered for an identifier is the identity of a provider that has it. -/
lemma mem_mapping (h : Keyed.get? (key id) (mapping ps) = some identity) :
    ∃ p ∈ ps, p.id = id ∧ p.identity = identity := by
  rw [mapping, Keyed.get?_ofList] at h
  obtain ⟨p, mem, eq⟩ := List.mem_map.mp (List.mem_reverse.mp (Keyed.mem_of_get? h))
  obtain ⟨same, rfl⟩ := Prod.mk.inj eq
  exact ⟨p, mem, key_injective same, rfl⟩

/-- A store stays sound when it remembers providers whose identifiers are derived. -/
lemma Sound.remember (sound : Sound store) (derived : ∀ p ∈ ps, nameId? p.identity = some p.id) :
    Sound (remember (mapping ps) store) := by
  intro id stored found
  rcases entries_remember (mapping ps) store with same | written
  · exact sound id stored (same ▸ found)
  -- what is written now counts first, and it comes from one of the providers
  rw [written, get?_written (nodup_mapping ps)] at found
  cases new : Keyed.get? (key id) (mapping ps) with
  | none =>
    rw [new] at found
    exact sound id stored found
  | some identity =>
    rw [new] at found
    cases found
    obtain ⟨p, mem, rfl, rfl⟩ := mem_mapping new
    exact ⟨p.identity, rfl, derived p mem⟩

/-- A sound store stays sound when providers are remembered whose identifiers derive from their
identities. -/
lemma Sound.rememberAll (sound : Sound w.store)
    (derived : ∀ p ∈ ps, nameId? p.identity = some p.id) :
    Sound (rememberAll ps w).2.store := by
  show Sound (if ps.isEmpty then w.store else Cache.remember (mapping ps) w.store)
  split
  · exact sound
  · exact sound.remember derived

/-- The identity that is found for an identifier is the one that is kept for it. -/
lemma exists_stored (known : (identityOf i w).1 = .ok (some identity)) :
    ∃ stored, Keyed.get? (key i) w.store.entries = some stored ∧ stored.read = .ok identity := by
  have given : (w.store.get (key i)).1 = .ok (some identity) := by
    rw [run_identityOf] at known
    dsimp only at known
    split at known
    · cases known
    · exact known
  unfold Store.get at given
  dsimp only at given
  split at given
  · cases given
  · split at given
    · cases given
    · rename_i stored found
      obtain ⟨text, read, eq⟩ := map_eq_ok.mp given
      cases eq
      exact ⟨stored, found, read⟩

/-- What is found for an identifier in a sound store is the identity that it is derived from. -/
lemma Sound.nameId?_eq (sound : Sound w.store)
    (known : (identityOf i w).1 = .ok (some identity)) : nameId? identity = some i := by
  obtain ⟨stored, found, read⟩ := exists_stored known
  obtain ⟨identity', read', derived⟩ := sound i stored found
  cases read.symm.trans read'
  exact derived

/-- A sound store that fails as stores do, if it fails at all, has an answer for an identifier. -/
lemma Sound.exists_identityOf (sound : Sound w.store)
    (failures : ∀ e, w.store.failure? "get" (key i) = some e → ∃ kind text, e = .store kind text) :
    ∃ known, (identityOf i w).1 = .ok known := by
  rw [run_identityOf, Store.get]
  dsimp only
  cases failed : w.store.failure? "get" (key i) with
  | some e =>
    obtain ⟨kind, text, rfl⟩ := failures e failed
    exact ⟨none, rfl⟩
  | none =>
    cases found : Keyed.get? (key i) w.store.entries with
    | none => exact ⟨none, rfl⟩
    | some stored =>
      obtain ⟨identity, read, -⟩ := sound i stored found
      dsimp only
      rw [read]
      exact ⟨some identity, rfl⟩

/-! ## What the service lists -/

/-- Everything that is listed comes from a row and satisfies the conditions that are evaluated. -/
lemma of_mem_listing (listed : ((Api.source s).getAll f w).1 = .ok listing)
    (mem : p ∈ listing.items) : (∃ row, Names row p) ∧ ∀ c ∈ f.conditions,
      c.field ∈ pushedFields.map Prod.fst → Listing.satisfies Provider.attr c p = true := by
  have asks : hasParams f = true := by
    by_contra silent
    rw [Api.run_getAll_refused (Bool.eq_false_of_not_eq_true silent)] at listed
    cases listed
  rw [Api.run_getAll asks] at listed
  obtain ⟨ps, fetched, listed⟩ := bind_eq_ok.mp listed
  obtain ⟨chosen, same, part, -⟩ := Listing.ofFilter_ok listed
  obtain ⟨given, satisfies⟩ := Listing.mem_select.mp (same.mem_iff.mp (part.subset mem))
  refine ⟨names_of_fetch fetched given, fun c condition known => satisfies c ?_⟩
  exact List.mem_filter.mpr ⟨condition, by simpa using known⟩

/-- The identifier of a provider that the service lists derives from its identity. -/
lemma nameId?_of_listed (listed : ((Api.source s).getAll f w).1 = .ok listing)
    (mem : p ∈ listing.items) : nameId? p.identity = some p.id := by
  obtain ⟨⟨row, names⟩, -⟩ := of_mem_listing listed mem
  exact names.id

/-- Asked for an identity, the service lists providers of this identity only. -/
lemma identity_of_listed (listed : ((Api.source s).getAll (ofIdentity identity) w).1 = .ok listing)
    (mem : p ∈ listing.items) : p.identity = identity := by
  obtain ⟨-, satisfies⟩ := of_mem_listing listed mem
  have same := satisfies _ List.mem_cons_self
    (show ("provider_identity" : Text) ∈ pushedFields.map Prod.fst by decide)
  exact Json.str.inj (Value.same_str.mp same)

/-! ## Sequences of calls -/

/-- What happens to a cache: a listing or a search with its outcome, or time between them. -/
inductive Event where
  | listed (f : Filter) (outcome : Except Failure (Listing Provider))
  | found (id : Text) (outcome : Except Failure (Option Provider))
  | elapsed

/-- Whether a world may become another one between two calls: nothing is written to the store, but
keys may expire, commands may begin or cease to fail, and anything may be answered from then on. -/
def Elapsed (w w' : World) : Prop :=
  ∀ key stored, Keyed.get? key w'.store.entries = some stored →
    Keyed.get? key w.store.entries = some stored

/-- A call of the cache in front of the discovery service, or time between calls. -/
inductive Step (s : ApiSettings) : World → Event → World → Prop where
  | listed (f : Filter) (w : World) :
    Step s w (.listed f (getAll (Api.source s) f w).1) (getAll (Api.source s) f w).2
  | found (id : Text) (w : World) :
    Step s w (.found id (getById (Api.source s) id w).1) (getById (Api.source s) id w).2
  | elapsed {w w' : World} (between : Elapsed w w') : Step s w .elapsed w'

/-- Steps one after another, each with the world that it leaves behind. -/
inductive Steps (s : ApiSettings) : World → List (Event × World) → Prop where
  | nil (w : World) : Steps s w []
  | cons {w w' : World} {e : Event} {rest : List (Event × World)} (step : Step s w e w')
    (others : Steps s w' rest) : Steps s w ((e, w') :: rest)

/-- A listing keeps a sound store sound. -/
lemma Sound.getAll (sound : Sound w.store) (f : Filter) :
    Sound (getAll (Api.source s) f w).2.store := by
  have unchanged : ((Api.source s).getAll f w).2.store = w.store := by
    obtain ⟨web, changed⟩ := Api.getAll_web s f w
    rw [changed]
  rw [run_getAll]
  rcases listed : (Api.source s).getAll f w with ⟨e | listing, w₁⟩ <;> rw [listed] at unchanged
  · exact unchanged ▸ sound
  · have items : ((Api.source s).getAll f w).1 = .ok listing := by rw [listed]
    exact Sound.rememberAll (unchanged ▸ sound) fun p mem => nameId?_of_listed items mem

/-- Searching writes nothing to the store. -/
lemma entries_getById (s : ApiSettings) (i : Text) (w : World) :
    (getById (Api.source s) i w).2.store.entries = w.store.entries := by
  have asked : (identityOf i w).2.store.entries = w.store.entries := by
    rw [run_identityOf]
    rfl
  rw [run_getById, ← asked]
  rcases (identityOf i w).1 with e | _ | identity
  · rfl
  · rw [Api.run_getById]
  · dsimp only
    obtain ⟨web, changed⟩ := Api.getAll_web s (ofIdentity identity) (identityOf i w).2
    rw [changed]

/-- Whatever a search in a sound store finds has the identifier that was asked for. -/
lemma Sound.id_of_found (sound : Sound w.store)
    (found : (Cache.getById (Api.source s) i w).1 = .ok (some p)) : p.id = i := by
  rw [run_getById] at found
  rcases known : (identityOf i w).1 with e | _ | identity <;> rw [known] at found
  · cases found
  · rw [Api.run_getById] at found
    obtain ⟨ps, -, found⟩ := map_eq_ok.mp found
    simpa using List.find?_some found
  · -- the identifier is never compared: it is the one that the provider's identity derives
    obtain ⟨listing, listed, first⟩ := map_eq_ok.mp found
    have mem := List.mem_of_mem_head? first
    have derived := sound.nameId?_eq known
    rw [← identity_of_listed listed mem, nameId?_of_listed listed mem] at derived
    exact Option.some.inj derived

/-- A step keeps the store sound, and a search that ends in it finds nothing else than what was
asked for. -/
lemma Step.sound {e : Event} (step : Step s w e w') (sound : Sound w.store) :
    Sound w'.store ∧ ∀ id p, e = .found id (.ok (some p)) → p.id = id := by
  cases step with
  | listed f => exact ⟨sound.getAll f, fun _ _ eq => absurd eq (by simp)⟩
  | found id =>
    refine ⟨?_, fun id p eq => ?_⟩
    · unfold Sound
      rw [entries_getById]
      exact sound
    · obtain ⟨rfl, found⟩ := Event.found.inj eq
      exact sound.id_of_found found
  | elapsed between =>
    exact ⟨fun id stored found => sound id stored (between _ _ found), fun _ _ eq => by cases eq⟩

/-- Starting from a sound store, the store is sound after every step, and no search ever answers an
identifier with another provider. -/
theorem searches_sound {history : List (Event × World)} (sound : Sound w.store)
    (steps : Steps s w history) : ∀ e w', (e, w') ∈ history →
      Sound w'.store ∧ ∀ id p, e = .found id (.ok (some p)) → p.id = id := by
  induction steps with
  | nil => exact fun _ _ mem => absurd mem List.not_mem_nil
  | cons step others ih =>
    obtain ⟨kept, found⟩ := step.sound sound
    intro e w' mem
    rcases List.mem_cons.mp mem with eq | mem
    · cases eq
      exact ⟨kept, found⟩
    · exact ih kept e w' mem

namespace Sample

open Catalogue.Sample

/-- Both proposals as the service writes them. -/
def page : Text := "[" ++ written "0xa" "DE" ++ "," ++ written "0xb" "FR" ++ "]"

/-- A world in which the identity of the first proposal is remembered. -/
def remembering : World := world page [(key firstId, .text "0xa")]

/-- The identifier of the first proposal derives from its identity. -/
lemma nameId?_first : nameId? "0xa" = some firstId := by decide +kernel

/-- Nothing else than the first proposal is remembered. -/
lemma mem_remembering {id : Text} {stored : Stored}
    (found : Keyed.get? (key id) remembering.store.entries = some stored) :
    id = firstId ∧ stored = .text "0xa" := by
  obtain ⟨same, eq⟩ := Prod.mk.inj (List.mem_singleton.mp (Keyed.mem_of_get? found))
  exact ⟨key_injective same, eq⟩

/-- So the store that remembers it is sound. -/
lemma sound_remembering : Sound remembering.store := by
  intro id stored found
  obtain ⟨rfl, rfl⟩ := mem_remembering found
  exact ⟨"0xa", rfl, nameId?_first⟩

/-- The search for the first provider after a listing of both proposals. -/
def search : Except Failure (Option Provider) × World :=
  getById (Api.source api) firstId (getAll (Api.source api) .everything remembering).2

end Sample

/-- After a listing of both proposals the search for the first provider finds it. -/
theorem first_search_sound : ∃ p,
    Sample.search.1 = .ok (some p) ∧ p.id = Catalogue.Sample.firstId := by
  have some : Sample.search.1.toOption.any (·.isSome) = true := by decide +kernel
  have steps := Steps.cons (Step.listed (s := Catalogue.Sample.api) .everything Sample.remembering)
    (.cons (.found Catalogue.Sample.firstId _) (.nil _))
  obtain ⟨-, sound⟩ := searches_sound Sample.sound_remembering steps _ _
    (List.mem_cons_of_mem _ List.mem_cons_self)
  rcases found : Sample.search.1 with e | _ | p
  · rw [found] at some
    cases some
  · rw [found] at some
    cases some
  · exact ⟨p, rfl, sound _ p (congrArg (Event.found _) found)⟩

end ProxyFleet.Catalogue.Cache
