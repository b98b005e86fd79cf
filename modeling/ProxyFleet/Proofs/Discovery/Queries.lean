import ProxyFleet.Discovery
import ProxyFleet.Proofs.Docker.Commands

/-!
# What discovery asks

Finding runners takes the query of a filter and inspections, and nothing else is asked. When no
query can be built from a filter, nothing is asked at all.
-/

namespace ProxyFleet.Discovery
open Docker Creation

variable {s : Settings} {f : Filter} {q : Query} {listing : Listing Runner} {σ : Session}

/-! ## Steps between the commands -/

/-- The containers that others depend on are found without interruption. -/
lemma dependencies_ordinary (cs : List Container) : Ordinary (dependencies cs) := by
  have shared : ∀ mode, Ordinary (sharedWith? mode) := by
    intro mode
    unfold sharedWith?
    split
    · exact .ok _
    · split
      · exact .ok _
      · exact .error rfl
  induction cs with
  | nil => exact .ok _
  | cons c rest ih => exact (shared _).bind fun _ => ih.bind fun _ => .pure _

/-- A published port is read without interruption. -/
lemma publishedPort_ordinary (labels : Json) : Ordinary (publishedPort s labels) := by
  refine (labels.lookup_ordinary _).bind fun port => ?_
  split
  · exact .pure _
  · refine port.asText_ordinary.bind fun text => ?_
    split
    · split
      · exact .pure _
      · exact .error rfl
    · exact .pure _

/-- A runner is read without interruption. -/
lemma runnerOf?_ordinary (addresses : List (Text × Json)) (c : Container) :
    Ordinary (runnerOf? s addresses c) := by
  have socket : ∀ service, Ordinary (socketOf s service c.labels) := by
    intro service
    cases service with
    | identity | connector => exact .ok _
    | relay => exact (publishedPort_ordinary _).map
  have volume : ∀ mount, Ordinary (volumeOf s mount) := fun mount =>
    mount.2.asText_ordinary.bind fun _ => .pure _
  refine (Json.lookup_ordinary _ _).bind fun project => ?_
  split
  · exact .pure _
  · exact (socket _).bind fun _ => (FailsWith.mapM fun _ _ => volume _).bind fun _ =>
      (Json.members_ordinary _).bind fun _ => .pure _

/-- All runners are read without interruption. -/
lemma readRunners_ordinary (addresses : List (Text × Json)) (cs : List Container) :
    Ordinary (readRunners s addresses cs) := by
  induction cs with
  | nil => exact .ok _
  | cons c rest ih => exact (runnerOf?_ordinary _ _).bind fun _ => ih.bind fun _ => .pure _

/-! ## Runners of a query -/

/-- Whether arguments are what finding the runners of a query may ask. -/
def Finding (q : Query) (args : List Text) : Prop := q.toArgs = .ok args ∨ Commands ["inspect"] args

/-- What is listed is the query. -/
lemma Finding.toArgs {args : List Text} (h : Finding q args) (lists : Commands ["ps"] args) :
    q.toArgs = .ok args :=
  h.resolve_right fun inspects => Commands.not_of_not_mem (by decide) inspects lists

/-- The addresses of those containers take inspections only. -/
lemma dependencyAddresses_composed (s : Settings) (cs : List Container) :
    Composed (Commands ["inspect"]) (dependencyAddresses s cs) := by
  refine .bind (.lift (dependencies_ordinary cs)) fun ids => ?_
  split
  · exact .pure _
  · exact .bind (inspect_composed _) fun _ => .pure _

/-- Finding runners asks for the query and for inspections. -/
lemma runners_finding (s : Settings) (q : Query) : Composed (Finding q) (runners s q) :=
  .bind (list_composed (fun _ => .inl) fun _ => .inr) fun cs =>
    .bind ((dependencyAddresses_composed s cs).mono fun _ => .inr) fun _ =>
      .lift (readRunners_ordinary _ _)

/-- Finding runners begins with the query. -/
lemma runners_begins {args : List Text} (h : q.toArgs = .ok args) :
    Begins (Finding q) args (runners s q) :=
  .bind (list_begins h (.inl h) fun _ => .inr) fun cs =>
    .bind ((dependencyAddresses_composed s cs).asks.mono fun _ => .inr) fun _ => .lift _

/-! ## Conditions -/

/-- A single condition is found when it is the only one on its field. -/
lemma condition?_eq_some {field : Text} {c : Condition} :
    f.condition? field = some c ↔ (f.conditions.filter fun c => c.field == field) = [c] := by
  unfold Filter.condition?
  split <;> simp_all

/-- The condition that is found is one of the filter on that field. -/
lemma condition?_mem {field : Text} {c : Condition} (h : f.condition? field = some c) :
    c ∈ f.conditions ∧ c.field = field := by
  have mem : c ∈ f.conditions.filter fun c => c.field == field := by
    rw [condition?_eq_some.mp h]
    exact List.mem_singleton_self c
  simpa using mem

/-- The conditions of a filter on the label. -/
def labelConditions (f : Filter) : List Condition := f.conditions.filter fun c => c.field == "label"

/-! ## The query of a filter -/

/-- The query has a filter for the project, one for every pair of the label, the states and the
name. -/
lemma queryOf?_some (h : queryOf? s f = .ok (some q)) : ∃ project owners states,
    projectFilter? s f = some project ∧ ownerFilters? s f = .ok (some owners) ∧
      stateFilter? f = some states ∧ q =
        { labels := project :: owners
          status := states
          name := (f.condition? "name").elim .null fun c => c.operand.asJson } := by
  unfold queryOf? at h
  cases service : projectFilter? s f with
  | none => cases service ▸ h
  | some project =>
    simp only [service] at h
    obtain ⟨owners, read, h⟩ := bind_eq_ok.mp h
    rcases owners with _ | owners
    · cases h
    · cases status : stateFilter? f with
      | none => cases status ▸ h
      | some states =>
        simp only [status] at h
        cases h
        exact ⟨project, owners, states, rfl, read, rfl, rfl⟩

/-- There is no query for an unknown service, for a label that cannot be written and for an unknown
status. -/
lemma queryOf?_none (h : queryOf? s f = .ok none) :
    projectFilter? s f = none ∨ ownerFilters? s f = .ok none ∨ stateFilter? f = none := by
  unfold queryOf? at h
  cases service : projectFilter? s f with
  | none => exact .inl rfl
  | some project =>
    simp only [service] at h
    obtain ⟨owners, read, h⟩ := bind_eq_ok.mp h
    rcases owners with _ | owners
    · exact .inr (.inl read)
    · cases status : stateFilter? f with
      | none => exact .inr (.inr rfl)
      | some states => cases status ▸ h

/-- Only a label that cannot be read refuses a filter. -/
lemma queryOf?_error {e : Failure} (h : queryOf? s f = .error e) :
    ownerFilters? s f = .error e := by
  unfold queryOf? at h
  cases service : projectFilter? s f with
  | none => cases service ▸ h
  | some project =>
    simp only [service] at h
    rcases read : ownerFilters? s f with e' | owners
    · rw [read] at h
      cases h
      rfl
    · rw [read, ok_bind] at h
      rcases owners with _ | owners
      · cases h
      · cases status : stateFilter? f with
        | none => cases status ▸ h
        | some states => cases status ▸ h

/-! ## Reads of the inventory -/

/-- A filter that is refused lists nothing, and nothing is asked. -/
lemma getAll_refused {e : Failure} (h : queryOf? s f = .error e) :
    getAll s f σ = (.error e, σ) := by
  simp only [getAll, run_bind, h, run_lift]

/-- Without a query nothing is listed, and nothing is asked. -/
lemma getAll_empty (h : queryOf? s f = .ok none) : getAll s f σ = (.ok .empty, σ) := by
  simp only [getAll, run_bind, h, run_lift, run_pure]

/-- The listing of a query is that of its runners. -/
lemma getAll_query (h : queryOf? s f = .ok (some q)) : getAll s f σ =
    ((wrapFailure (runners s q σ).1).bind (Listing.ofFilter Runner.attr (some memoryFields) f),
      (runners s q σ).2) := by
  simp only [getAll, run_bind, h, run_lift, run_attempt]
  cases wrapFailure (runners s q σ).1 <;> rfl

/-- Listing runners asks for the query of the filter. -/
lemma getAll_asks (s : Settings) (f : Filter) :
    Asks (fun args => ∃ q, queryOf? s f = .ok (some q) ∧ Finding q args) (getAll s f) := by
  intro σ
  rcases query : queryOf? s f with e | _ | q
  · rw [getAll_refused query]
    exact ⟨[], .refl σ⟩
  · rw [getAll_empty query]
    exact ⟨[], .refl σ⟩
  · rw [getAll_query query]
    obtain ⟨events, grew⟩ := (runners_finding s q).asks σ
    exact ⟨events, grew.mono fun args asked => ⟨q, rfl, asked⟩⟩

/-- A search for an identifier begins with the query for it. -/
lemma getById_begins {id : Text} {args : List Text}
    (h : Query.toArgs { labels := [s.key "id" ++ "=" ++ id] } = .ok args) :
    Begins (Finding { labels := [s.key "id" ++ "=" ++ id] }) args (getById s id) := by
  have guarded : Begins _ args (attempt (runners s { labels := [s.key "id" ++ "=" ++ id] })) :=
    runners_begins h
  exact .bind guarded fun outcome => .bind (.lift _) fun _ => .pure _

end ProxyFleet.Discovery
