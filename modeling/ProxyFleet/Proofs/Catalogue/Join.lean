import Mathlib.Data.List.Permutation
import ProxyFleet.Proofs.Catalogue.Proposals
import ProxyFleet.Proofs.Catalogue.Registration

/-!
# The registry as a join

The registry asks the discovery service with the conditions that it evaluates, evaluates them again
on what is answered, and all of them once more after the join. None of this shows: its listing is
that of all proposals joined with all runners. Finding one provider is a listing as well, although
it asks for fewer runners.
-/

namespace ProxyFleet.Catalogue

variable {s : ApiSettings} {f : Filter} {R rows : List Json} {S S' : List Runner} {p : Provider}
  {P : List Provider} {i : Text} {w v : World} {c : Condition} {source : Source}
  {runners : Filter → World.Run (Listing Runner)} {total total' listed : Nat}

/-! ## The filter of the source -/

/-- Conditions that are pushed down are conditions of the filter. -/
lemma pushed_subset (f : Filter) : pushed f ⊆ f.conditions := by
  intro c mem
  obtain ⟨field, param, -, found⟩ := mem_pushed.mp mem
  exact (Discovery.condition?_mem found).1

/-- Their fields are among those that are pushed down. -/
lemma field_of_mem_pushed (mem : c ∈ pushed f) : c.field ∈ pushedFields.map Prod.fst := by
  obtain ⟨field, param, known, found⟩ := mem_pushed.mp mem
  rw [(Discovery.condition?_mem found).2]
  exact List.mem_map_of_mem known

/-- Adding conditions one after another adds all of them. -/
lemma foldl_require {α : Type} {add : Filter → α → Filter} (condition? : α → Option Condition)
    (step : ∀ f x, add f x = { f with conditions := f.conditions ++ (condition? x).toList })
    (xs : List α) (f : Filter) :
    xs.foldl add f = { f with conditions := f.conditions ++ xs.filterMap condition? } := by
  induction xs generalizing f with
  | nil => simp
  | cons x rest ih =>
    rw [List.foldl_cons, ih, step]
    cases found : condition? x <;> simp [found]

/-- The source is asked with the conditions that become parameters, for all items in their order. -/
lemma Registry.sourceFilter_eq (f : Filter) :
    Registry.sourceFilter f = { Filter.everything with conditions := pushed f } := by
  unfold Registry.sourceFilter
  refine foldl_require (fun field => f.condition? field.1) (fun acc field => ?_) pushedFields
    .everything
  cases found : f.condition? field.1 with
  | none => simp
  | some c => simp [Filter.require, ← (Discovery.condition?_mem found).2]

/-- Of every field that is pushed down there is one condition at most. -/
lemma filter_pushed {field : Text} (known : field ∈ pushedFields.map Prod.fst) :
    (pushed f).filter (fun c => c.field == field) = (f.condition? field).toList := by
  have names : (pushedFields.map Prod.fst).filter (· == field) = [field] := by
    rw [List.filter_beq, List.count_eq_one_of_mem (by decide) known]
    rfl
  calc (pushed f).filter (fun c => c.field == field)
    _ = (pushedFields.map Prod.fst).filterMap fun name =>
        (f.condition? name).filter fun c => c.field == field := by
      rw [pushed, List.filter_filterMap, List.filterMap_map]
      rfl
    _ = ((pushedFields.map Prod.fst).filter (· == field)).filterMap f.condition? := by
      rw [List.filterMap_filter]
      refine List.filterMap_congr fun name _ => ?_
      cases found : f.condition? name with
      | none => simp
      | some c => simp [Option.filter, (Discovery.condition?_mem found).2]
    _ = (f.condition? field).toList := by
      rw [names]
      cases found : f.condition? field <;> simp [found]

/-- The filter of the source has the same single condition on a field that is pushed down. -/
lemma condition?_sourceFilter {field : Text} (known : field ∈ pushedFields.map Prod.fst) :
    (Registry.sourceFilter f).condition? field = f.condition? field := by
  rw [Registry.sourceFilter_eq, Filter.condition?, filter_pushed known]
  cases f.condition? field <;> rfl

/-- From the filter of the source the same conditions are pushed down. -/
lemma pushed_sourceFilter (f : Filter) : pushed (Registry.sourceFilter f) = pushed f := by
  unfold pushed
  exact List.filterMap_congr fun field known => condition?_sourceFilter (List.mem_map_of_mem known)

/-- The discovery service is asked as if it were asked with the filter itself. -/
lemma paramsOf_sourceFilter (f : Filter) : paramsOf (Registry.sourceFilter f) = paramsOf f := by
  unfold paramsOf
  congr 1
  refine List.filterMap_congr fun (field, param) known => ?_
  dsimp only
  rw [condition?_sourceFilter (List.mem_map_of_mem known)]

/-! ## The providers that are listed -/

/-- A request for a filter that compares with texts is answered by rows for its parameters. -/
lemma Served.getAll (texts : Textual f) (served : Served s R ((Api.source s).getAll f) w) :
    ∃ rows, (Web.nextReply w.web.replies).1.document s.url = .ok (.arr rows) ∧
      Serves R (paramsOf f) rows :=
  served _ (Api.log_getAll texts.hasParams s w)

/-- Whichever permitted answer is given, the service lists the providers of all proposals that
satisfy the conditions that became parameters. -/
lemma getAll_of_served (proposals : ∀ row ∈ R, IsProposal row) (texts : Textual f)
    (served : Served s R ((Api.source s).getAll f) w)
    (once : Listing.evaluated (some (pushedFields.map Prod.fst)) f.conditions = pushed f)
    (unsorted : f.sort = none) (unpaged : f.unpaged = .bool true) :
    ∃ total, ((Api.source s).getAll f w).1 =
      .ok ⟨Listing.select Provider.attr (pushed f) (providersOf s.now R), total⟩ := by
  obtain ⟨rows, answer, serves⟩ := served.getAll texts
  rw [Api.run_getAll texts.hasParams,
    fetch_ok answer fun row mem => proposals row (serves.part.subset mem)]
  show ∃ total, Listing.ofFilter Provider.attr _ f (providersOf s.now rows) = _
  rw [Listing.ofFilter_unpaged unsorted unpaged, once]
  simp only [Listing.select, serves.filter_providersOf texts]
  exact ⟨_, rfl⟩

/-! ## Listing -/

/-- Conditions that are evaluated before the join select nothing that the filter would not. -/
lemma select_pushed_joined (S : List Runner) (f : Filter) (ps : List Provider) :
    Listing.select Provider.attr f.conditions
        ((Listing.select Provider.attr (pushed f) ps).map (joined S)) =
      Listing.select Provider.attr f.conditions (ps.map (joined S)) := by
  simp only [Listing.select, List.filter_map, List.filter_filter]
  congr 1
  refine List.filter_congr fun p _ => ?_
  rw [Bool.and_eq_left_iff_imp]
  intro all
  refine List.all_eq_true.mpr fun c mem => ?_
  have holds := List.all_eq_true.mp all c (pushed_subset f mem)
  rwa [Listing.satisfies, attr_joined (List.mem_cons_of_mem _ (field_of_mem_pushed mem))] at holds

/-- The registry asks the service for the conditions of a filter on country, identity and kind of
network, each as far as it is the only one. If the answer is a part of the proposals that has all
those that satisfy them, the listing is that of all proposals as runners register them. -/
theorem listing_joined (proposals : ∀ row ∈ R, IsProposal row) (plain : ∀ r ∈ S, r.label.Plain)
    (texts : Textual f) (served : Served s R ((Api.source s).getAll (Registry.sourceFilter f)) w)
    (live : (runners Registry.runnerFilter
      ((Api.source s).getAll (Registry.sourceFilter f) w).2).1 = .ok ⟨S, total⟩) :
    ((Api.source s).getAll (Registry.sourceFilter f) w).2.web.log =
        w.web.log ++ [s.request (paramsOf f)] ∧
      ∃ ps, R.mapM (readProposal s.now) = .ok ps ∧
        (Registry.getAll (Api.source s) runners f w).1 =
          Listing.ofFilter Provider.attr none f (ps.map (joined S)) := by
  have conditions := Registry.sourceFilter_eq f
  have texts' : Textual (Registry.sourceFilter f) := by
    rw [conditions]
    exact fun c mem => texts c (pushed_subset f mem)
  refine ⟨?_, providersOf s.now R, mapM_readProposal proposals, ?_⟩
  · rw [← paramsOf_sourceFilter f]
    exact Api.log_getAll texts'.hasParams s w
  -- the filter of the source has nothing but conditions that are pushed down, one for each field
  have once : Listing.evaluated (some (pushedFields.map Prod.fst))
      (Registry.sourceFilter f).conditions = pushed (Registry.sourceFilter f) := by
    rw [pushed_sourceFilter, conditions]
    refine List.filter_eq_self.mpr fun c mem => ?_
    simpa using field_of_mem_pushed mem
  obtain ⟨count, listed⟩ := getAll_of_served proposals texts' served once (by rw [conditions]; rfl)
    (by rw [conditions]; rfl)
  rw [Registry.run_getAll (Prod.ext listed rfl) (Prod.ext live rfl), pushed_sourceFilter]
  show Registry.joinAll f _ S = _
  rw [Registry.joinAll_eq plain]
  refine Listing.ofFilter_congr ?_
  have all : Listing.evaluated none f.conditions = f.conditions := List.filter_true _
  rw [all]
  exact select_pushed_joined S f _

namespace Sample

/-- The settings for a discovery service. -/
def api : ApiSettings where
  baseUrl := "https://discovery.example.com/"
  timeout := .int 30
  now := ⟨⟨2024, 1, 2⟩, 3, 4, 5, 0, some 0⟩

/-- A proposal of a residential provider. -/
def proposal (identity country : Text) : Json :=
  .obj [("provider_id", .str identity),
    ("location", .obj [("country", .str country), ("ip_type", .str "residential")])]

/-- A German and a French proposal. -/
def proposals : List Json := [proposal "0xa" "DE", proposal "0xb" "FR"]

/-- A proposal as the service writes it. -/
def written (identity country : Text) : Text :=
  "\x7b\"provider_id\":\"" ++ identity ++ "\",\"location\":\x7b\"country\":\"" ++ country ++
    "\",\"ip_type\":\"residential\"\x7d\x7d"

/-- The identifier of the first proposal's provider. -/
def firstId : Text := "775deaab-37a4-5d2d-8dc8-c7a834e39741"

/-- Two running nodes: one of the first provider, and one whose label is unreadable. -/
def nodes : List Runner :=
  [.template .identity (.one ⟨.str "provider",
    [("id", .str firstId), ("provider_identity", .str "0xa"), ("user_identity", .str "0xc")]⟩),
   .template .identity (.one ⟨.str "nobody", [("id", .str "1")]⟩)]

/-- A source of runners that takes a condition on the label as one for the first node. -/
def listNodes (f : Filter) : World.Run (Listing Runner) :=
  pure (if (f.condition? "label").isSome then ⟨nodes.take 1, 1⟩ else ⟨nodes, 2⟩)

/-- The first page of German providers. -/
def german : Filter := Filter.default.requireJson "country" (.str "DE")

/-- A world in which the service gives one answer, and a store has entries. -/
def world (body : Text) (entries : List (Text × Stored)) : World where
  docker := ⟨"docker", [], [], 0⟩
  web := ⟨[.answer 200 "OK" body], []⟩
  store := ⟨entries, [], []⟩

/-- A proposal is well-formed when its identity has bytes. -/
lemma isProposal {identity country : Text} (bytes : (nameId? identity).isSome) :
    IsProposal (proposal identity country) :=
  ⟨⟨identity, rfl, bytes⟩, ⟨_, rfl, .residential, rfl⟩, fun _ given => by cases given⟩

/-- Both proposals are well-formed. -/
lemma isProposal_of_mem : ∀ row ∈ proposals, IsProposal row := by
  intro row mem
  rcases List.mem_pair.mp mem with rfl | rfl
  · exact isProposal (by decide)
  · exact isProposal (by decide)

/-- Both nodes have plain labels, the unreadable one, too. -/
lemma nodes_plain : ∀ r ∈ nodes, r.label.Plain := by
  intro r mem
  rcases List.mem_pair.mp mem with rfl | rfl
  all_goals
    refine ⟨fun e entry q given => ?_, by decide⟩
    cases List.mem_singleton.mp entry
    simp only [List.mem_cons, List.not_mem_nil, or_false] at given
  · rcases given with rfl | rfl | rfl <;> trivial
  · cases given
    trivial

/-- Without a condition on the label both nodes are listed. -/
lemma listNodes_all (w : World) :
    (listNodes Registry.runnerFilter w).1 = .ok ⟨nodes, 2⟩ := rfl

/-- Of the two proposals the first one is German. -/
lemma serves_german : Serves proposals (paramsOf (Registry.sourceFilter german))
    [proposal "0xa" "DE"] := by
  have asked : proposals.filter (fun row =>
      (paramsOf (Registry.sourceFilter german)).all (meets row)) = [proposal "0xa" "DE"] := rfl
  exact ⟨.cons_cons _ (.cons _ .slnil), asked ▸ .refl _⟩

/-- The service answers with the document that it was given. -/
lemma document_world (body : Text) (entries : List (Text × Stored)) :
    (Web.nextReply (world body entries).web.replies).1.document api.url =
      Docker.readDocument body := rfl

/-- The document with the German proposal is read as a list of it. -/
lemma read_german :
    Docker.readDocument ("[" ++ written "0xa" "DE" ++ "]") = .ok (.arr [proposal "0xa" "DE"]) := by
  cbv

end Sample

/-- Asked for German providers the service answers the only one; the listing is that of both
proposals. -/
theorem german_listing_joined : ∃ ps,
    Sample.proposals.mapM (readProposal Sample.api.now) = .ok ps ∧
      (Registry.getAll (Api.source Sample.api) Sample.listNodes Sample.german
          (Sample.world ("[" ++ Sample.written "0xa" "DE" ++ "]") [])).1 =
        Listing.ofFilter Provider.attr none Sample.german (ps.map (joined Sample.nodes)) := by
  have texts : Textual Sample.german := by
    intro c mem _
    cases List.mem_singleton.mp mem
    exact ⟨"DE", rfl⟩
  have served := Served.of_asked (Api.log_getAll rfl ..)
    ((Sample.document_world _ []).trans Sample.read_german) Sample.serves_german
  exact (listing_joined Sample.isProposal_of_mem Sample.nodes_plain texts served
    (Sample.listNodes_all _)).2

/-! ## Finding one provider -/

/-- A provider is registered by the same runner when only such are left out that do not supply its
identifier. -/
lemma joined_eq_of_sublist (part : S'.Sublist S)
    (whole : (S.filter fun r => r.label.given? .provider "id" = some p.id).Sublist S') :
    joined S' p = joined S p := by
  have refers : ∀ rs : List Runner,
      (rs.filter fun r => r.label.given? .provider "id" = some p.id).find?
          (fun r => reference? r = some (p.id, p.identity)) =
        rs.find? fun r => reference? r = some (p.id, p.identity) := by
    intro rs
    rw [List.find?_filter]
    congr 1
    funext r
    simp only [decide_eq_true_iff]
    exact decide_eq_decide.mpr (and_iff_right_of_imp given?_of_reference?)
  unfold joined
  rw [← refers S', Listing.filter_eq_of_sublist part whole, refers S]

/-- Among providers as they are registered, the one with an identifier is the one found before. -/
lemma head?_select_joined (S : List Runner) (P : List Provider) (i : Text) :
    (Listing.select Provider.attr [⟨"id", .json (.str i)⟩] (P.map (joined S))).head? =
      (P.find? fun p => p.id == i).map (joined S) := by
  rw [Listing.select, List.head?_filter, List.find?_map]
  congr 2
  funext p
  show (((joined S p).attr "id").same (Value.ofJson (.str i)) && true) = _
  rw [attr_joined List.mem_cons_self, Bool.and_true, Bool.eq_iff_iff, beq_iff_eq]
  show (Value.ofJson (.str p.id)).same (.str i) = true ↔ _
  rw [Value.same_str, Json.str.injEq]

/-- Finding a provider in the registry gives the first one of the listing by its identifier,
although fewer runners are asked for. -/
theorem found_heads_listing (plain : ∀ r ∈ S, r.label.Plain)
    (found : (source.getById i w).1 = .ok (P.find? fun p => p.id == i))
    (asked : (runners (Registry.runnerFilterOf i) (source.getById i w).2).1 = .ok ⟨S', total'⟩)
    (part : S'.Sublist S)
    (whole : (S.filter fun r => r.label.given? .provider "id" = some i).Sublist S')
    (all : (source.getAll .everything v).1 = .ok ⟨P, listed⟩)
    (live : (runners Registry.runnerFilter (source.getAll .everything v).2).1 = .ok ⟨S, total⟩) :
    ∃ listing, (Registry.getAll source runners
        (Filter.everything.requireJson "id" (.str i)) v).1 = .ok listing ∧
      (Registry.getById source runners i w).1 = .ok listing.items.head? := by
  have plain' : ∀ r ∈ S', r.label.Plain := fun r mem => plain r (part.subset mem)
  rw [Registry.run_getAll (Prod.ext all rfl) (Prod.ext live rfl),
    Registry.run_getById (Prod.ext found rfl) (Prod.ext asked rfl)]
  refine ⟨_, (Registry.joinAll_eq plain _ P).trans (Listing.ofFilter_unpaged rfl rfl), ?_⟩
  have head := head?_select_joined S P i
  show Registry.joinOne _ S' = .ok (List.head? _)
  refine (Registry.joinOne_eq plain' _).trans (congrArg Except.ok (.trans ?_ head.symm))
  cases first : P.find? fun p => p.id == i with
  | none => rfl
  | some p =>
    have same : p.id = i := by simpa using List.find?_some first
    subst same
    exact congrArg some (joined_eq_of_sublist part whole)

/-- A source that has the providers of both proposals. -/
def Sample.providers : Source where
  getAll _ := pure ⟨providersOf Sample.api.now Sample.proposals, 2⟩
  getById i := pure ((providersOf Sample.api.now Sample.proposals).find? fun p => p.id == i)

/-- The search for the first provider asks for one of the two nodes and finds what is listed. -/
theorem first_provider_heads_listing : ∃ listing,
    (Registry.getAll Sample.providers Sample.listNodes
        (Filter.everything.requireJson "id" (.str Sample.firstId)) (Sample.world "[]" [])).1 =
      .ok listing ∧
    (Registry.getById Sample.providers Sample.listNodes Sample.firstId (Sample.world "[]" [])).1 =
      .ok listing.items.head? := by
  have first : Sample.nodes.filter (fun r =>
      r.label.given? .provider "id" = some Sample.firstId) = Sample.nodes.take 1 := by rfl
  have asked : ∀ w, (Sample.listNodes (Registry.runnerFilterOf Sample.firstId) w).1 =
      .ok ⟨Sample.nodes.take 1, 1⟩ := fun _ => rfl
  exact found_heads_listing Sample.nodes_plain rfl (asked _) (List.take_sublist _ _)
    (first ▸ .refl _) rfl (Sample.listNodes_all _)

end ProxyFleet.Catalogue
