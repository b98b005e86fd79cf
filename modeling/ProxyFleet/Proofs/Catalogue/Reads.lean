import ProxyFleet.Proofs.Boundary
import ProxyFleet.Proofs.Catalogue.Cache
import ProxyFleet.Proofs.Discovery.Queries
import ProxyFleet.Proofs.Gather

/-!
# Aggregated reads

The registry asks the source of providers and docker together. Neither knows of the other, so that
each of them is asked as if it were asked alone, whatever becomes of the other one; and of two
failures the one of the source is reported.
-/

namespace ProxyFleet.Catalogue

/-! ## Two operations together -/

section

variable {α β : Type} {a : Except Failure α} {b : Except Failure β} {e e' : Failure}

/-- When the first of two outcomes is a failure, both together are. -/
lemma pair_of_first (failed : a = .error e) (raised : Gather.Raised false e e') :
    Gather.pair a b = .error e' := by
  have first : Gather.run [⟨0, a.map Sum.inl, false⟩, ⟨0, b.map Sum.inr, false⟩] = .error e' :=
    Gather.run_eq_error.mpr ⟨[], _, _, e, rfl, nofun, map_eq_error.mpr failed, raised⟩
  exact map_eq_error.mp ((Gather.run_pair a b 0 0).symm.trans first)

/-- When the first of two outcomes is none and the second one is, both together are a failure. -/
lemma pair_of_second {x : α} (fine : a = .ok x) (failed : b = .error e)
    (raised : Gather.Raised false e e') : Gather.pair a b = .error e' := by
  have before : ∀ c ∈ [(⟨0, a.map Sum.inl, false⟩ : Branch (α ⊕ β))],
      ∃ value, c.outcome = .ok value := by
    intro c mem
    rw [List.mem_singleton.mp mem]
    exact ⟨_, map_eq_ok.mpr ⟨x, fine, rfl⟩⟩
  have second : Gather.run [⟨0, a.map Sum.inl, false⟩, ⟨0, b.map Sum.inr, false⟩] = .error e' :=
    Gather.run_eq_error.mpr ⟨[_], _, [], e, rfl, before, map_eq_error.mpr failed, raised⟩
  exact map_eq_error.mp ((Gather.run_pair a b 0 0).symm.trans second)

end

/-- What the registry comes to is what its sources come to together, joined. -/
lemma Registry.getAll_eq (source : Source) (runners : Filter → World.Run (Listing Runner))
    (f : Filter) (w : World) : Registry.getAll source runners f w =
      let listed := source.getAll (sourceFilter f) w
      let live := runners runnerFilter listed.2
      ((Gather.pair listed.1 live.1).bind fun p => joinAll f p.1.items p.2.items, live.2) := by
  rw [Registry.getAll, run_bind, Registry.run_both]
  dsimp only
  cases Gather.pair (source.getAll (sourceFilter f) w).1
    (runners runnerFilter (source.getAll (sourceFilter f) w).2).1 <;> rfl

/-! ## The two sources -/

/-- Providers are listed without docker. -/
lemma docker_cached (api : ApiSettings) (f : Filter) (w : World) :
    ((Cache.source (Api.source api)).getAll f w).2.docker = w.docker := by
  have unasked : ((Api.source api).getAll f w).2.docker = w.docker := by
    obtain ⟨web, changed⟩ := Api.getAll_web api f w
    rw [changed]
  show (Cache.getAll (Api.source api) f w).2.docker = w.docker
  rw [Cache.run_getAll, ← unasked]
  rcases (Api.source api).getAll f w with ⟨_ | _, _⟩ <;> rfl

/-- Docker is asked for the running identity nodes as if nothing else were asked. -/
lemma Registry.getAll_ofFleet (creation : Creation.Settings) (api : ApiSettings) (f : Filter)
    (w : World) : (Registry.ofFleet creation api).getAll f w =
      let listed := (Cache.source (Api.source api)).getAll (sourceFilter f) w
      let live := Discovery.getAll creation runnerFilter w.docker
      ((Gather.pair listed.1 live.1).bind fun p => joinAll f p.1.items p.2.items,
        { listed.2 with docker := live.2 }) := by
  have joined := Registry.getAll_eq (Cache.source (Api.source api))
    (fun f => World.onDocker (Discovery.getAll creation f)) f w
  dsimp only [World.onDocker] at joined
  rw [docker_cached] at joined
  exact joined

/-- The query for the running identity nodes. -/
def nodeQuery (creation : Creation.Settings) : Docker.Query :=
  { labels := [creation.projectFilter .identity], status := ["running"] }

/-- What docker is asked for the running identity nodes. -/
def nodeListing (creation : Creation.Settings) : List Text :=
  ["ps", "--quiet", "--no-trunc", "--all", "--filter",
    "label=" ++ creation.projectFilter .identity, "--filter", "status=running"]

/-- The running identity nodes are asked for first. -/
lemma runnerFilter_begins (creation : Creation.Settings) :
    Docker.Begins (fun _ => True) (nodeListing creation)
      (Discovery.getAll creation Registry.runnerFilter) := by
  intro σ
  have query : Discovery.queryOf? creation Registry.runnerFilter =
      .ok (some (nodeQuery creation)) := rfl
  have args : (nodeQuery creation).toArgs = .ok (nodeListing creation) := rfl
  rw [Discovery.getAll_query query]
  exact (Discovery.runners_begins args).mono (fun _ _ => trivial) σ

/-- A failure of docker in the listing of the running identity nodes is one of the fleet. -/
lemma runnerFilter_fleet (creation : Creation.Settings) :
    Docker.Fails (fun e => e.isFleet = true)
      (Discovery.getAll creation Registry.runnerFilter) := by
  refine Discovery.getAll_fleet rfl rfl rfl fun c mem field => ?_
  rcases List.mem_pair.mp mem with rfl | rfl <;> exact absurd field (by decide)

/-- Branches that are awaited together all end, each once, unless one of them is a coroutine that
asks for the end of the process. What is gathered is the values of all or the failure of the first
that fails, whatever the order in which they end; the order of `endings` is one of these. So the
registry leaves behind what asking its source alone and docker alone leave behind, and fails as the
source does, or else as docker does. -/
theorem reads_fail_in_order {α : Type} (branches : List (Branch α)) (creation : Creation.Settings)
    (api : ApiSettings) (f : Filter) (w : World) :
    (WellFounded fun t s : Gather.State α => Gather.Step s t) ∧
    (∀ s, Gather.Steps (.start branches) s →
      s.result? = none ∧ (∃ t, Gather.Step s t) ∨
      s.result? = some (Gather.run branches) ∧ s.order.Perm (List.range branches.length) ∨
      s.result? = none ∧ ∃ i ∈ s.order, ∃ b, branches[i]? = some b ∧ b.stopsAll = true) ∧
    ((∀ b ∈ branches, b.stopsAll = false) →
      ∃ t, Gather.Steps (.start branches) t ∧ t.result? = some (Gather.run branches) ∧
        t.order = Gather.endings branches) ∧
    (∀ values, Gather.run branches = .ok values ↔ branches.map (·.outcome) = values.map .ok) ∧
    (∀ e, Gather.run branches = .error e ↔ ∃ before b after e', branches = before ++ b :: after ∧
      (∀ a ∈ before, ∃ value, a.outcome = .ok value) ∧ b.outcome = .error e' ∧
      Gather.Raised b.future e' e) ∧
    let providers := (Cache.source (Api.source api)).getAll (Registry.sourceFilter f) w
    let runners := Discovery.getAll creation Registry.runnerFilter w.docker
    let answer := (Registry.ofFleet creation api).getAll f w
    (∀ kind text, providers.1 ≠ .error (.cancelled (.exit kind text))) →
      answer.2 = { providers.2 with docker := runners.2 } ∧
      (∃ reply rest, answer.2.docker.log =
        w.docker.log ++ .call (w.docker.binary :: nodeListing creation) reply :: rest) ∧
      (∀ e, providers.1 = .error e → ∃ e', Gather.Raised false e e' ∧ answer.1 = .error e') ∧
      ∀ listing e, providers.1 = .ok listing → runners.1 = .error e → answer.1 = .error e := by
  refine ⟨Gather.wellFounded_step, fun s steps => ?_, fun harmless => ?_,
    fun values => Gather.run_eq_ok, fun e => Gather.run_eq_error, ?_⟩
  · have tracked := (Gather.Tracks.start branches).steps steps
    by_cases goesOn : s.goesOn = true
    · by_cases ended : s.slots.all Gather.Slot.isEnded = true
      · exact .inr (.inl (tracked.all_ended goesOn ended))
      · exact .inl (Gather.exists_step_of_not_ended goesOn ended)
    · exact .inr (.inr ⟨if_neg fun both => goesOn both.1, tracked.exists_stopsAll goesOn⟩)
  · obtain ⟨t, steps, order, goesOn, ended⟩ := Gather.exists_steps_endings harmless
    obtain ⟨result, -⟩ := ((Gather.Tracks.start branches).steps steps).all_ended goesOn ended
    exact ⟨t, steps, result, order⟩
  intro providers runners answer _
  have joined : answer = _ := Registry.getAll_ofFleet creation api f w
  rw [joined]
  refine ⟨rfl, ?_, fun e failed => ?_, fun listing e fine failed => ?_⟩
  · obtain ⟨reply, rest, grew⟩ := runnerFilter_begins creation w.docker
    exact ⟨reply, rest, grew.log⟩
  · refine ⟨_, Gather.raised_iff.mpr rfl, ?_⟩
    dsimp only
    rw [pair_of_first failed (Gather.raised_iff.mpr rfl)]
    rfl
  · have fleet : e.isFleet = true := runnerFilter_fleet creation w.docker e failed
    dsimp only
    rw [pair_of_second fine failed (.fleet fleet)]
    rfl

/-- A coroutine that is cancelled does not reach those who await it as it is: its text is lost. And
one that asks for the end of the process leaves the others where they are. -/
theorem cancellation_text_lost :
    ((Failure.cancelled (.cancellation "why")).isOrdinary = false ∧
      Gather.run [⟨0, .error (.cancelled (.cancellation "why")), false⟩] =
        (.error (.cancelled (.cancellation "")) : Except Failure (List Json)) ∧
      Failure.cancelled (.cancellation "") ≠ .cancelled (.cancellation "why")) ∧
    ∃ t, Gather.Steps (.start
        [⟨0, .error (.cancelled (.exit "SystemExit" "1")), false⟩, ⟨0, .ok Json.null, false⟩]) t ∧
      t.order = [0] ∧ t.result? = none ∧ ∀ u, ¬ Gather.Step t u := by
  refine ⟨⟨rfl, rfl, fun same => ?_⟩, _, .single (.finish rfl (i := 0) rfl), rfl, rfl, ?_⟩
  · have causes := Failure.cancelled.inj same
    have texts : ("" : Text) = "why" := Interruption.cancellation.inj causes
    exact absurd texts (by decide)
  · rintro u (⟨goesOn, -⟩ | ⟨goesOn, -⟩) <;> cases goesOn

end ProxyFleet.Catalogue
