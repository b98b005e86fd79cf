import ProxyFleet.Proofs.Catalogue.Cache

/-!
# Remembering listings

Whoever lists providers gets what the source lists, or its failure. After a listing that names
providers, one command writes the identities behind all its identifiers, or none of them. Then each
key that was written is let expire by a command of its own, whichever of these commands fail. No
other key is touched, and a listing without providers and a failure write nothing.
-/

namespace ProxyFleet.Catalogue.Cache

variable {ps : List Provider} {store : Store}

/-- Whether pairs are what a listing gives to remember: the keys of the identifiers that it names,
each once and in the order in which they are named first, every one with the identity of the
provider that has it last. -/
structure Remembers (ps : List Provider) (pairs : List (Text × Text)) : Prop where
  keys : Keyed.keys pairs = (ps.map (·.id)).eraseDups.map key
  last : ∀ before p after, ps = before ++ p :: after → (∀ q ∈ after, q.id ≠ p.id) →
    (key p.id, p.identity) ∈ pairs

/-- How the store stands after the outcome of a listing has been remembered. -/
inductive Written (before : Store) : Except Failure (Listing Provider) → Store → Prop where
  | failed {e} : Written before (.error e) before
  | empty {listing} : listing.items = [] → Written before (.ok listing) before
  | refused {listing pairs e} : listing.items ≠ [] → Remembers listing.items pairs →
    before.failureOf? "mset" = some e →
    Written before (.ok listing) { before with log := before.log ++ [.setAll pairs] }
  | written {listing pairs entries} : listing.items ≠ [] → Remembers listing.items pairs →
    before.failureOf? "mset" = none →
    (∀ k identity, (k, identity) ∈ pairs → Keyed.get? k entries = some (.text identity)) →
    (∀ k, k ∉ Keyed.keys pairs → Keyed.get? k entries = Keyed.get? k before.entries) →
    Written before (.ok listing) { before with
      entries
      log := before.log ++ .setAll pairs :: (Keyed.keys pairs).map (.expire · 300) }

/-! ## The pairs -/

/-- The provider that has an identifier last is the one whose identity is mapped. -/
lemma get?_mapping_last {before after : List Provider} {p : Provider}
    (last : ∀ q ∈ after, q.id ≠ p.id) :
    Keyed.get? (key p.id) (mapping (before ++ p :: after)) = some p.identity := by
  have others :
      Keyed.get? (key p.id) (after.map fun q => (key q.id, q.identity)).reverse = none := by
    refine Keyed.get?_eq_none.mpr fun named => ?_
    obtain ⟨pair, given, same⟩ := List.mem_map.mp named
    obtain ⟨q, mem, rfl⟩ := List.mem_map.mp (List.mem_reverse.mp given)
    exact last q mem (key_injective same)
  rw [mapping, Keyed.get?_ofList, List.map_append, List.map_cons, List.reverse_append,
    List.reverse_cons, Keyed.get?_append, Keyed.get?_append, others]
  simp [Keyed.get?]

/-- What is written for a listing is what is to be remembered of it. -/
lemma remembers_mapping (ps : List Provider) : Remembers ps (mapping ps) := by
  refine ⟨?_, ?_⟩
  · rw [mapping, Keyed.keys_ofList, ← eraseDups_map key_injective]
    simp [Keyed.keys, Function.comp_def]
  · rintro before p after rfl last
    exact Keyed.mem_of_get? (get?_mapping_last last)

/-! ## The commands -/

/-- Remembering the pairs of a listing either fails as a whole or writes them all. -/
lemma written_remember {listing : Listing Provider} (some : listing.items ≠ []) (store : Store) :
    Written store (.ok listing) (remember (mapping listing.items) store) := by
  have pairs := remembers_mapping listing.items
  have nodup := nodup_mapping listing.items
  cases failed : store.failureOf? "mset" with
  | some e =>
    rw [remember_refused failed]
    exact .refused some pairs failed
  | none =>
    rw [remember_written failed]
    refine .written some pairs failed (fun k identity mem => ?_) (fun k other => ?_)
    · rw [get?_written nodup, Keyed.get?_of_mem nodup mem]
      rfl
    · rw [get?_written nodup, Keyed.get?_eq_none.mpr other]
      rfl

/-- The answer to a listing is the source's, whatever becomes of remembering it, and remembering it
changes nothing but the store. -/
theorem listing_remembered_unseen (source : Source) (f : Filter) (w : World) :
    (getAll source f w).1 = (source.getAll f w).1 ∧
    ∃ after, (getAll source f w).2 = { (source.getAll f w).2 with store := after } ∧
      Written (source.getAll f w).2.store (source.getAll f w).1 after := by
  rw [run_getAll]
  rcases source.getAll f w with ⟨e | listing, w₁⟩
  · exact ⟨rfl, w₁.store, rfl, .failed⟩
  · refine ⟨rfl, _, rfl, ?_⟩
    by_cases none : listing.items = []
    · rw [none]
      exact .empty none
    · rw [if_neg (by simpa using none)]
      exact written_remember none w₁.store

end ProxyFleet.Catalogue.Cache
