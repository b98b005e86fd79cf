import ProxyFleet.Proofs.Creation.ContainerLabels
import ProxyFleet.Proofs.Creation.Retries
import ProxyFleet.Proofs.Discovery.Queries
import ProxyFleet.Proofs.Docker.Filters
import ProxyFleet.Proofs.Filter.Listing
import ProxyFleet.Proofs.Runner

/-!
# Pushing filters down

The query of a filter and the conditions that are evaluated in memory together select the containers
whose runners satisfy the filter, and no others: nothing is lost by asking docker for less, and
nothing is added.
-/

namespace ProxyFleet.Discovery
open Docker Creation

variable {s : Settings} {f : Filter} {q : Query} {c : Container} {r : Runner}
  {addresses : List (Text × Json)} {filters : List LabelFilter}

/-! ## What is asked of a filter and what it asks for -/

/-- Whether a filter has conditions on the label, at most one and readable, and on attributes that
are evaluated in memory, where names are texts. -/
structure Plain (f : Filter) : Prop where
  fields : ∀ c ∈ f.conditions, c.field = ("label" : Text) ∨ c.field ∈ memoryFields
  single : (labelConditions f).length ≤ 1
  label : ∀ c ∈ f.conditions, c.field = "label" → ∃ models, c.operand.asLabel.read = .ok models
  names : ∀ c ∈ f.conditions, c.field = "name" → ∃ name, c.operand = .json (.str name)

/-- Whether a runner satisfies the conditions of a filter, that on the label by the labels that the
runner was read from: they have every pair that the condition's label writes, so that no runner
satisfies one whose numbers cannot be written. -/
structure Satisfies (s : Settings) (f : Filter) (labels : Json) (r : Runner) : Prop where
  attributes : ∀ c ∈ f.conditions, c.field ≠ "label" →
    (Runner.attr r c.field).same c.operand.toValue = true
  label : ∀ c ∈ f.conditions, c.field = "label" → ∀ models, c.operand.asLabel.read = .ok models →
    ∃ pairs, Model.writeAll s.docker.keyPrefix secretFields models = .ok pairs ∧
      ∀ p ∈ pairs, labels.member? p.1 = some (.str p.2)

/-- Whether a container passes the filters of a query, those for labels being given by what docker
takes them for: it passes all of them, is in one of the states if there are any, and has the name if
one is given. -/
structure Selects (filters : List LabelFilter) (q : Query) (c : Container) : Prop where
  labels : ∀ x ∈ filters, x.Holds c.labels
  status : q.status = [] ∨ c.status ∈ q.status
  name : q.name.isBlank ∨ q.name = .str c.name

/-! ## Runners and the containers that they are read from -/

/-- A text that is found is a member. -/
lemma member?_of_lookup {j : Json} {key text : Text} (h : j.lookup key = .ok (.str text)) :
    j.member? key = some (.str text) := by
  cases j with
  | obj ms =>
    have found := Except.ok.inj h
    show Keyed.get? key ms = _
    cases eq : Keyed.get? key ms with
    | none => rw [eq] at found; cases found
    | some j => rw [eq] at found; exact congrArg some found
  | _ => cases h

/-- A runner has the service, the name and the condition of its container. -/
lemma runnerOf?_some (h : runnerOf? s addresses c = .ok (some r)) :
    c.labels.member? (s.key "project") = some (.str r.service.name) ∧
      r.name = some c.name ∧ r.status = .ofDockerState c.status := by
  obtain ⟨project, found, h⟩ := bind_eq_ok.mp h
  split at h
  · cases h
  · rename_i service named
    obtain ⟨_, -, h⟩ := bind_eq_ok.mp h
    obtain ⟨_, -, h⟩ := bind_eq_ok.mp h
    obtain ⟨_, -, h⟩ := bind_eq_ok.mp h
    cases h
    rw [Service.ofJson?_eq_some.mp named] at found
    exact ⟨member?_of_lookup found, rfl, rfl⟩

namespace Satisfies

variable {labels : Json} {condition : Condition}

/-- A condition that is pushed down and satisfied names what the runner has. -/
lemma operand {field text : Text} (h : Satisfies s f labels r) (other : field ≠ "label")
    (attr : Runner.attr r field = .str text) (found : f.condition? field = some condition) :
    condition.operand = .json (.str text) := by
  obtain ⟨mem, rfl⟩ := condition?_mem found
  have same := h.attributes condition mem other
  rw [attr] at same
  exact Value.str_same.mp same

end Satisfies

/-! ## The filters of a query -/

/-- The filter for the project passes every container whose runner satisfies the filter. -/
lemma projectFilter?_some {project : Text} (h : projectFilter? s f = some project) :
    ∃ x : LabelFilter, project = x.text ∧ x.key = s.key "project" ∧
      ∀ labels r, labels.member? (s.key "project") = some (.str r.service.name) →
        Satisfies s f labels r → x.Holds labels := by
  unfold projectFilter? at h
  split at h
  · cases h
    refine ⟨.present (s.key "project"), rfl, rfl, fun labels r found _ => ?_⟩
    exact Option.isSome_iff_exists.mpr ⟨_, found⟩
  · rename_i c condition
    obtain ⟨service, named, rfl⟩ := Option.map_eq_some_iff.mp h
    refine ⟨.equals (s.key "project") service.name, rfl, rfl, fun labels r found satisfies => ?_⟩
    rw [satisfies.operand (by decide) rfl condition] at named
    cases named.symm.trans (Service.ofJson?_name _)
    exact found

/-- The pairs that the condition on a readable label writes, if there is one. -/
lemma Satisfies.pairs {labels : Json} (h : Satisfies s f labels r) {c : Condition}
    (found : f.condition? "label" = some c) {models : List Model}
    (read : c.operand.asLabel.read = .ok models) :
    ∃ pairs, Model.writeAll s.docker.keyPrefix secretFields models = .ok pairs ∧
      ∀ p ∈ pairs, labels.member? p.1 = some (.str p.2) :=
  let ⟨mem, field⟩ := condition?_mem found
  h.label c mem field models read

/-- The filters for owners are the pairs that the condition on the label asks for. -/
lemma ownerFilters?_some {owners : List Text} (h : ownerFilters? s f = .ok (some owners)) :
    ∃ pairs : List (Text × Text), owners = pairs.map assignment ∧ (∀ p ∈ pairs, LabelKey s p.1) ∧
      (∀ labels r, Satisfies s f labels r → ∀ p ∈ pairs, labels.member? p.1 = some (.str p.2)) ∧
      ∀ c, f.condition? "label" = some c → ∀ models, c.operand.asLabel.read = .ok models →
        Model.writeAll s.docker.keyPrefix secretFields models = .ok pairs := by
  unfold ownerFilters? at h
  split at h
  · rename_i none
    cases h
    refine ⟨[], rfl, nofun, fun _ _ _ => nofun, fun c found => ?_⟩
    cases none.symm.trans found
  · rename_i c condition
    obtain ⟨models, read, owners⟩ := map_eq_ok.mp h
    obtain ⟨pairs, written, rfl⟩ := Option.map_eq_some_iff.mp owners
    have written := toOption_eq_some.mp written
    refine ⟨pairs, rfl, fun p mem => ?_, fun labels r satisfies => ?_,
      fun c' found models' read' => ?_⟩
    · obtain ⟨-, rfl⟩ := Model.writeAll_eq_ok.mp written
      have value := Keyed.get?_of_mem (Model.nodup_flatAll _ _ _) mem
      obtain ⟨m, -, f, known, -, -, -, eq, -⟩ :=
        Model.exists_of_get?_flatAll (Label.wellFormed_of_read read) value
      exact eq ▸ .field m.owner f known
    · obtain ⟨pairs', written', has⟩ := satisfies.pairs condition read
      cases written.symm.trans written'
      exact has
    · cases condition.symm.trans found
      cases read.symm.trans read'
      exact written

/-- The states of the query are those of the condition that a satisfying runner is in. -/
lemma stateFilter?_some {states : List Text} (h : stateFilter? f = some states) {labels : Json}
    (known : c.status ∈ RunnerStatus.knownStates) (status : r.status = .ofDockerState c.status)
    (satisfies : Satisfies s f labels r) : states = [] ∨ c.status ∈ states := by
  unfold stateFilter? at h
  split at h
  · cases h
    exact .inl rfl
  · rename_i condition found
    obtain ⟨status', named, rfl⟩ := Option.map_eq_some_iff.mp h
    rw [satisfies.operand (by decide) rfl found] at named
    cases named.symm.trans (RunnerStatus.ofJson?_name _)
    exact .inr ((RunnerStatus.mem_dockerStates known _).mpr status.symm)

/-- The label filters of a query: each has a key of the fleet, the containers of satisfying runners
pass them, and every pair that the condition on the label asks for is among them. -/
lemma exists_labelFilters (h : queryOf? s f = .ok (some q)) : ∃ filters : List LabelFilter,
    q.labels = filters.map LabelFilter.text ∧ (∀ x ∈ filters, LabelKey s x.key) ∧
      (∀ labels r, labels.member? (s.key "project") = some (.str r.service.name) →
        Satisfies s f labels r → ∀ x ∈ filters, x.Holds labels) ∧
      ∀ c, f.condition? "label" = some c → ∀ models, c.operand.asLabel.read = .ok models →
        ∃ pairs, Model.writeAll s.docker.keyPrefix secretFields models = .ok pairs ∧
          ∀ p ∈ pairs, LabelFilter.equals p.1 p.2 ∈ filters := by
  obtain ⟨project, owners, states, service, read, -, rfl⟩ := queryOf?_some h
  obtain ⟨x, rfl, key, passes⟩ := projectFilter?_some service
  obtain ⟨pairs, rfl, known, owned, asked⟩ := ownerFilters?_some read
  refine ⟨x :: pairs.map fun p => .equals p.1 p.2, ?_, ?_, fun labels r found satisfies => ?_, ?_⟩
  · simp [LabelFilter.text, Function.comp_def]
  · intro y mem
    rcases List.mem_cons.mp mem with rfl | mem
    · exact key ▸ .own "project" (by decide)
    · obtain ⟨p, written, rfl⟩ := List.mem_map.mp mem
      exact known p written
  · intro y mem
    rcases List.mem_cons.mp mem with rfl | mem
    · exact passes labels r found satisfies
    · obtain ⟨p, written, rfl⟩ := List.mem_map.mp mem
      exact owned labels r satisfies p written
  · intro c found models read
    refine ⟨pairs, asked c found models read, fun p written => ?_⟩
    exact List.mem_cons_of_mem _ (List.mem_map_of_mem written)

/-! ## Conditions in memory -/

/-- A runner passes the conditions that are evaluated in memory exactly when it satisfies all but
those on the label. -/
lemma mem_select_iff (plain : Plain f) :
    r ∈ Listing.select Runner.attr (Listing.evaluated (some memoryFields) f.conditions) [r] ↔
      ∀ c ∈ f.conditions, c.field ≠ "label" →
        (Runner.attr r c.field).same c.operand.toValue = true := by
  have evaluated : ∀ c ∈ f.conditions, c ∈ Listing.evaluated (some memoryFields) f.conditions ↔
      c.field ≠ "label" := by
    intro c mem
    have apart : ("label" : Text) ∉ memoryFields := by decide
    refine List.mem_filter.trans ⟨fun h eq => ?_, fun other => ⟨mem, ?_⟩⟩
    · exact apart (eq ▸ by simpa using h.2)
    · simpa using (plain.fields c mem).resolve_left other
  refine Listing.mem_select.trans
    ⟨fun h c mem other => ?_, fun h => ⟨List.mem_singleton_self r, ?_⟩⟩
  · exact h.2 c ((evaluated c mem).mpr other)
  · intro c mem
    have given := (List.mem_filter.mp mem).1
    exact h c given ((evaluated c given).mp mem)

/-- The single condition on the label is the one that is pushed down. -/
lemma Plain.condition?_label (plain : Plain f) {c : Condition} (mem : c ∈ f.conditions)
    (field : c.field = "label") : f.condition? "label" = some c := by
  have mem : c ∈ labelConditions f := List.mem_filter.mpr ⟨mem, by simpa using field⟩
  have one : (labelConditions f).length = 1 :=
    Nat.le_antisymm plain.single (List.length_pos_of_mem mem)
  obtain ⟨c', eq⟩ := List.length_eq_one_iff.mp one
  rw [eq] at mem
  exact condition?_eq_some.mpr (List.mem_singleton.mp mem ▸ eq)

/-! ## What is selected -/

/-- The query finds the container of every runner that satisfies the filter. -/
lemma selects_of_satisfies (query : queryOf? s f = .ok (some q))
    (holds : ∀ x ∈ filters, x.Holds c.labels) (known : c.status ∈ RunnerStatus.knownStates)
    (found : runnerOf? s addresses c = .ok (some r)) (satisfies : Satisfies s f c.labels r) :
    Selects filters q c := by
  obtain ⟨project, owners, states, -, -, status, rfl⟩ := queryOf?_some query
  obtain ⟨-, name, condition⟩ := runnerOf?_some found
  refine ⟨holds, stateFilter?_some status known condition satisfies, ?_⟩
  show Json.isBlank ((f.condition? "name").elim _ _) ∨ (f.condition? "name").elim _ _ = _
  rcases given : f.condition? "name" with _ | named
  · exact .inl rfl
  · have attr : Runner.attr r "name" = .str c.name := congrArg Value.ofText? name
    have operand := satisfies.operand (by decide) attr given
    exact .inr (congrArg Operand.asJson operand)

/-- When no query can be built, the filter names a service or a condition that there is not, or a
label that no container can have. -/
lemma not_satisfies_of_no_query (none : queryOf? s f = .ok none) {labels : Json} :
    ¬ Satisfies s f labels r := by
  intro satisfies
  rcases queryOf?_none none with unknown | unwritten | unknown
  · unfold projectFilter? at unknown
    split at unknown
    · cases unknown
    · rename_i c condition
      rw [satisfies.operand (by decide) rfl condition] at unknown
      cases (Service.ofJson?_name _).symm.trans (Option.map_eq_none_iff.mp unknown)
  · unfold ownerFilters? at unwritten
    split at unwritten
    · cases unwritten
    · rename_i c condition
      obtain ⟨models, read, owners⟩ := map_eq_ok.mp unwritten
      obtain ⟨pairs, written, -⟩ := satisfies.pairs condition read
      rw [written] at owners
      cases owners
  · unfold stateFilter? at unknown
    split at unknown
    · cases unknown
    · rename_i c condition
      rw [satisfies.operand (by decide) rfl condition] at unknown
      cases (RunnerStatus.ofJson?_name _).symm.trans (Option.map_eq_none_iff.mp unknown)

/-- A filter with a readable label is not refused. -/
lemma Plain.queryOf?_ne_error (plain : Plain f) (e : Failure) : queryOf? s f ≠ .error e := by
  intro refused
  have unread := queryOf?_error refused
  unfold ownerFilters? at unread
  split at unread
  · cases unread
  · rename_i c condition
    obtain ⟨mem, field⟩ := condition?_mem condition
    obtain ⟨models, read⟩ := plain.label c mem field
    rw [read] at unread
    cases unread

/-- The query of such a filter can be asked for, as its names are texts. -/
lemma Plain.exists_toArgs (plain : Plain f) (query : queryOf? s f = .ok (some q)) :
    ∃ args, q.toArgs = .ok args := by
  obtain ⟨project, owners, states, -, -, -, rfl⟩ := queryOf?_some query
  have named : ∃ filter, nameFilter ((f.condition? "name").elim .null fun c => c.operand.asJson) =
      .ok filter := by
    rcases given : f.condition? "name" with _ | c
    · exact ⟨[], rfl⟩
    · obtain ⟨mem, field⟩ := condition?_mem given
      obtain ⟨name, operand⟩ := plain.names c mem field
      exact ⟨_, by rw [Option.elim_some, operand]; rfl⟩
  obtain ⟨filter, named⟩ := named
  exact ⟨_, bind_eq_ok.mpr ⟨filter, named, rfl⟩⟩

/-- Docker's filters and the conditions that are evaluated in memory select the containers whose
runners satisfy a filter, and no others; the filters for labels are told apart by what docker reads
from them when the prefix has no equals sign. When no query can be built, nothing is listed and no
container has a runner that satisfies the filter. -/
theorem pushed_filters_exact (s : Settings) (plain : Plain f) :
    (∀ e, queryOf? s f ≠ .error e) ∧
    (∀ q, queryOf? s f = .ok (some q) → ∃ (args : List Text) (filters : List LabelFilter),
      q.toArgs = .ok args ∧ labelFilters args = q.labels ∧ statusFilters args = q.status ∧
      q.labels = filters.map LabelFilter.text ∧
      (.char '=' ∉ s.docker.keyPrefix → q.labels.map LabelFilter.ofText = filters) ∧
      ∀ c addresses, c.status ∈ RunnerStatus.knownStates →
        ((Selects filters q c ∧ ∃ r, runnerOf? s addresses c = .ok (some r) ∧
          r ∈ Listing.select Runner.attr (Listing.evaluated (some memoryFields) f.conditions) [r]) ↔
        ∃ r, runnerOf? s addresses c = .ok (some r) ∧ Satisfies s f c.labels r)) ∧
    (queryOf? s f = .ok none → (∀ σ, getAll s f σ = (.ok .empty, σ)) ∧
      ∀ c addresses r, runnerOf? s addresses c = .ok (some r) → ¬ Satisfies s f c.labels r) := by
  refine ⟨plain.queryOf?_ne_error, fun q query => ?_, fun none =>
    ⟨fun σ => getAll_empty none, fun c addresses r _ => not_satisfies_of_no_query none⟩⟩
  obtain ⟨filters, labels, keys, passes, asked⟩ := exists_labelFilters query
  obtain ⟨args, toArgs⟩ := plain.exists_toArgs query
  obtain ⟨named, states⟩ := filters_toArgs toArgs
  refine ⟨args, filters, toArgs, named, states, labels, fun unequal => ?_,
    fun c addresses known => ⟨?_, ?_⟩⟩
  · rw [labels, List.map_map]
    refine (List.map_congr_left fun x mem => ?_).trans (List.map_id _)
    exact LabelFilter.ofText_text ((keys x mem).not_mem_equals unequal)
  · rintro ⟨selected, r, found, chosen⟩
    refine ⟨r, found, (mem_select_iff plain).mp chosen, fun c mem field models read => ?_⟩
    obtain ⟨pairs, written, asked⟩ := asked c (plain.condition?_label mem field) models read
    exact ⟨pairs, written, fun p mem => selected.labels _ (asked p mem)⟩
  · rintro ⟨r, found, satisfies⟩
    have holds := passes c.labels r (runnerOf?_some found).1 satisfies
    exact ⟨selects_of_satisfies query holds known found satisfies, r, found,
      (mem_select_iff plain).mpr satisfies.attributes⟩

namespace Sample

/-- A filter for the running node of an identity. -/
def nodeFilter : Filter :=
  ((Filter.default.requireJson "service" (.str "identity")).requireJson "status"
    (.str "running")).require "label" (.label (.one ⟨.str "identity", [("id", .str "1")]⟩))

/-- A container of the sample fleet. -/
def node : Container where
  id := .str "5c"
  name := "identity-1"
  status := "running"
  labels := .obj
    [("com.mysterium-proxy.project", .str "identity"),
     ("com.mysterium-proxy.identity.id", .str "1")]
  networks := []
  networkMode := .null
  mounts := []
  created := none
  exitCode := .null
  started := none
  finished := none

/-- The query of the filter. -/
def nodeQuery : Query where
  labels := ["com.mysterium-proxy.project=identity", "com.mysterium-proxy.identity.id=1"]
  status := ["running"]

/-- The label filters that docker reads from the query. -/
def nodeLabels : List LabelFilter :=
  [.equals "com.mysterium-proxy.project" "identity", .equals "com.mysterium-proxy.identity.id" "1"]

/-- The filter for the running node is plain. -/
lemma nodeFilter_plain : Plain nodeFilter := by
  have conditions : ∀ c ∈ nodeFilter.conditions, (c.field ∈ memoryFields ∧ c.field ≠ "name") ∨
      c = ⟨"label", .label (.one ⟨.str "identity", [("id", .str "1")]⟩)⟩ := by
    intro c mem
    simp only [nodeFilter, Filter.default, Filter.requireJson, Filter.require, List.nil_append,
      List.cons_append, List.mem_cons, List.not_mem_nil, or_false] at mem
    rcases mem with rfl | rfl | rfl
    · exact .inl (by decide)
    · exact .inl (by decide)
    · exact .inr rfl
  refine ⟨fun c mem => ?_, by decide, fun c mem field => ?_, fun c mem field => ?_⟩
  · rcases conditions c mem with ⟨known, -⟩ | rfl
    · exact .inr known
    · exact .inl rfl
  · rcases conditions c mem with ⟨known, -⟩ | rfl
    · exact absurd (field ▸ known) (by decide)
    · exact ⟨_, rfl⟩
  · rcases conditions c mem with ⟨-, other⟩ | rfl
    · exact absurd field other
    · exact absurd field (by decide)

end Sample

/-- The query for the running node of an identity finds the node of the sample fleet, whose runner
hence satisfies the filter. -/
theorem sample_filters_exact : ∃ r : Runner,
    queryOf? Sample.settings Sample.nodeFilter = .ok (some Sample.nodeQuery) ∧
      Selects Sample.nodeLabels Sample.nodeQuery Sample.node ∧
      runnerOf? Sample.settings [] Sample.node = .ok (some r) ∧
      Satisfies Sample.settings Sample.nodeFilter Sample.node.labels r := by
  have query : queryOf? Sample.settings Sample.nodeFilter = .ok (some Sample.nodeQuery) := by rfl
  have selected : Selects Sample.nodeLabels Sample.nodeQuery Sample.node := by
    refine ⟨fun x mem => ?_, .inr List.mem_cons_self, .inl rfl⟩
    rcases List.mem_pair.mp mem with rfl | rfl <;> rfl
  obtain ⟨-, exact, -⟩ := pushed_filters_exact Sample.settings Sample.nodeFilter_plain
  obtain ⟨args, filters, -, -, -, -, read, same⟩ := exact _ query
  have filters : filters = Sample.nodeLabels := (read (by decide)).symm
  subst filters
  obtain ⟨r, found, satisfies⟩ := (same Sample.node [] (by decide)).mp
    ⟨selected, _, rfl, List.mem_cons_self⟩
  exact ⟨r, query, selected, found, satisfies⟩

end ProxyFleet.Discovery
