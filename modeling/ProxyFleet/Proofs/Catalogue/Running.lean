import ProxyFleet.Catalogue.Registry
import ProxyFleet.Proofs.Outcome

/-!
# Running operations of the catalogue

What an operation comes to, and the state that it leaves behind, is given by what the operations
that it is put together from come to.
-/

namespace ProxyFleet.Catalogue

variable {f : Filter} {id : Text} {w w₁ w₂ : World}

/-! ## The discovery service -/

/-- The discovery service is asked once. -/
lemma fetch_log (s : ApiSettings) (params : List (Text × Text)) (web : Web.Session) :
    (fetch s params web).2.log = web.log ++ [s.request params] := rfl

/-- A listing is that of the proposals that the service is asked for. -/
lemma Api.run_getAll (asks : hasParams f = true) (s : ApiSettings) (w : World) :
    (Api.source s).getAll f w =
      ((fetch s (paramsOf f) w.web).1.bind
          (Listing.ofFilter Provider.attr (some (pushedFields.map Prod.fst)) f),
        { w with web := (fetch s (paramsOf f) w.web).2 }) := by
  show World.onWeb (Api.getAll s f) w = _
  rw [World.onWeb, Api.getAll, run_bind, writeParams, if_pos asks, run_lift]
  dsimp only
  rw [run_bind]
  rcases fetch s (paramsOf f) w.web with ⟨_ | _, _⟩ <;> rfl

/-- A listing for which no request can be written is refused. -/
lemma Api.run_getAll_refused (silent : hasParams f = false) (s : ApiSettings) (w : World) :
    (Api.source s).getAll f w = (.error .badNumeral, w) := by
  show World.onWeb (Api.getAll s f) w = _
  rw [World.onWeb, Api.getAll, run_bind, writeParams, if_neg (by simp [silent]), run_lift]

/-- Listing providers changes nothing but what the service remembers of it. -/
lemma Api.getAll_web (s : ApiSettings) (f : Filter) (w : World) :
    ∃ web, ((Api.source s).getAll f w).2 = { w with web } := by
  cases asks : hasParams f with
  | true => exact ⟨_, by rw [Api.run_getAll asks]⟩
  | false => exact ⟨w.web, by rw [Api.run_getAll_refused asks]⟩

/-- A search for an identifier goes through all proposals. -/
lemma Api.run_getById (s : ApiSettings) (id : Text) (w : World) : (Api.source s).getById id w =
    ((fetch s baseParams w.web).1.map (·.find? fun p => p.id == id),
      { w with web := (fetch s baseParams w.web).2 }) := by
  show World.onWeb (Api.getById s id) w = _
  rw [World.onWeb, Api.getById, run_bind]
  rcases fetch s baseParams w.web with ⟨_ | _, _⟩ <;> rfl

/-- For a listing the service is asked with the parameters of the filter. -/
lemma Api.log_getAll (asks : hasParams f = true) (s : ApiSettings) (w : World) :
    ((Api.source s).getAll f w).2.web.log = w.web.log ++ [s.request (paramsOf f)] := by
  rw [Api.run_getAll asks]
  exact fetch_log s _ w.web

/-- For a search the service is asked without a condition. -/
lemma Api.log_getById (s : ApiSettings) (id : Text) (w : World) :
    ((Api.source s).getById id w).2.web.log = w.web.log ++ [s.request baseParams] := by
  rw [Api.run_getById]
  exact fetch_log s _ w.web

/-! ## The registry -/

/-- The second of two operations is run whatever the first one comes to. -/
lemma Registry.run_both {α β : Type} (x : World.Run α) (y : World.Run β) (w : World) :
    Registry.both x y w = (Gather.pair (x w).1 (y (x w).2).1, (y (x w).2).2) := rfl

/-- Two operations that succeed one after the other give both values. -/
lemma Registry.both_ok {α β : Type} {x : World.Run α} {y : World.Run β} {a : α} {b : β}
    (first : x w = (.ok a, w₁)) (second : y w₁ = (.ok b, w₂)) :
    Registry.both x y w = (.ok (a, b), w₂) := by
  simp only [Registry.run_both, first, second, Gather.pair]

section
variable {source : Source} {runners : Filter → World.Run (Listing Runner)} {ps : Listing Provider}
  {provider : Option Provider} {live : Listing Runner}

/-- When both sources answer, the listing is what they answer joined. -/
lemma Registry.run_getAll (listed : source.getAll (Registry.sourceFilter f) w = (.ok ps, w₁))
    (asked : runners Registry.runnerFilter w₁ = (.ok live, w₂)) :
    Registry.getAll source runners f w = (Registry.joinAll f ps.items live.items, w₂) := by
  rw [Registry.getAll, run_bind, Registry.both_ok listed asked]
  rfl

/-- When both sources answer, the provider that is found is joined with the runners. -/
lemma Registry.run_getById (found : source.getById id w = (.ok provider, w₁))
    (asked : runners (Registry.runnerFilterOf id) w₁ = (.ok live, w₂)) :
    Registry.getById source runners id w = (Registry.joinOne provider live.items, w₂) := by
  rw [Registry.getById, run_bind, Registry.both_ok found asked]
  rfl

end

end ProxyFleet.Catalogue
