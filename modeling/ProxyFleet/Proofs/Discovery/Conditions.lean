import ProxyFleet.Proofs.Creation.Retries
import ProxyFleet.Proofs.Discovery.Queries
import ProxyFleet.Proofs.Docker.Filters
import ProxyFleet.Proofs.Filter.Listing

/-!
# Which conditions count

Of the conditions of a filter, those that are evaluated in memory hold of every runner that is
counted, and a condition on the label narrows the query when it is the only one. All others are
passed over: those on other attributes, and conditions on the label when there are several.
-/

namespace ProxyFleet.Discovery
open Docker Creation

variable {s : Settings} {f g : Filter} {keep : Text → Bool} {field : Text} {q : Query}
  {listing : Listing Runner} {σ σ' : Session}

/-! ## Conditions that make no difference -/

/-- The filter with the conditions on some fields only. -/
def onFields (keep : Text → Bool) (f : Filter) : Filter :=
  { f with conditions := f.conditions.filter fun c => keep c.field }

/-- A filter on some fields has the same single condition on each of them. -/
lemma condition?_onFields (kept : keep field = true) :
    (onFields keep f).condition? field = f.condition? field := by
  have both : ∀ c : Condition, (c.field == field && keep c.field) = (c.field == field) := by
    intro c
    by_cases h : c.field = field <;> simp [h, kept]
  unfold Filter.condition? onFields
  simp only [List.filter_filter, both]

/-- It has the same conditions that are evaluated in memory, if these fields are kept. -/
lemma evaluated_onFields (kept : ∀ field ∈ memoryFields, keep field = true) :
    Listing.evaluated (some memoryFields) (onFields keep f).conditions =
      Listing.evaluated (some memoryFields) f.conditions := by
  unfold Listing.evaluated onFields
  rw [List.filter_filter]
  refine List.filter_congr fun c _ => ?_
  by_cases known : c.field ∈ memoryFields
  · simp [known, kept _ known]
  · simp [known]

/-- A listing depends on a filter by the conditions that become the query and by those that are
evaluated. -/
lemma getAll_onFields (kept : ∀ field ∈ memoryFields, keep field = true)
    (label : (onFields keep f).condition? "label" = f.condition? "label") :
    getAll s (onFields keep f) = getAll s f := by
  have pushed : ∀ {field}, field ∈ memoryFields →
      (onFields keep f).condition? field = f.condition? field :=
    fun known => condition?_onFields (kept _ known)
  have query : queryOf? s (onFields keep f) = queryOf? s f := by
    unfold queryOf? projectFilter? ownerFilters? stateFilter?
    rw [label, pushed (by decide), pushed (by decide), pushed (by decide)]
  have page : ∀ rs, Listing.ofFilter Runner.attr (some memoryFields) (onFields keep f) rs =
      Listing.ofFilter Runner.attr (some memoryFields) f rs := by
    intro rs
    unfold Listing.ofFilter
    rw [evaluated_onFields kept]
    rfl
  unfold getAll
  simp only [query, page]

/-! ## Conditions on attributes -/

/-- Every runner that a listing counts, on whatever page it is, satisfies all conditions on the
attributes that are evaluated in memory. Conditions on further attributes make no difference. -/
theorem memory_conditions_honoured (h : getAll s f σ = (.ok listing, σ')) :
    (∃ counted, listing.items <:+: counted ∧ listing.total = counted.length ∧
      ∀ r ∈ counted, ∀ c ∈ f.conditions, c.field ∈ memoryFields →
        (Runner.attr r c.field).same c.operand.toValue = true) ∧
    getAll s (onFields ((("label" : Text) :: memoryFields).contains ·) f) σ =
      (.ok listing, σ') := by
  constructor
  · rcases query : queryOf? s f with e | _ | q
    · cases (getAll_refused query).symm.trans h
    · cases (getAll_empty query).symm.trans h
      exact ⟨[], List.infix_rfl, rfl, fun r mem => absurd mem List.not_mem_nil⟩
    · obtain ⟨ended, -⟩ := Prod.mk.inj ((getAll_query query).symm.trans h)
      obtain ⟨rs, -, listed⟩ := bind_eq_ok.mp ended
      obtain ⟨counted, moved, part, total⟩ := Listing.ofFilter_ok listed
      refine ⟨counted, part, total, fun r mem c given known => ?_⟩
      obtain ⟨-, all⟩ := Listing.mem_select.mp (moved.mem_iff.mp mem)
      exact all c (List.mem_filter.mpr ⟨given, by simpa using known⟩)
  · rw [getAll_onFields (by decide) (condition?_onFields (by decide)), h]

namespace Sample

/-- What docker tells about a container of the sample fleet. -/
def containerDocument : String :=
  "[\x7b\"Id\":\"5c\",\"Name\":\"/identity-1\",\"Config\":\x7b\"Labels\":" ++
    "\x7b\"com.mysterium-proxy.project\":\"identity\"\x7d\x7d\x7d]"

/-- A session in which docker lists one container. -/
def listingSession : Session where
  binary := "docker"
  answers :=
    [("ps", [⟨"5c\n".toUTF8, .empty, 0⟩]),
     ("inspect", [⟨containerDocument.toUTF8, .empty, 0⟩])]
  log := []
  issued := 0

/-- A filter for identity nodes that are executed by another engine than docker. -/
def engineFilter : Filter :=
  (Filter.default.requireJson "service" (.str "identity")).requireJson "exec" (.str "podman")

end Sample

/-- The one runner of the sample fleet is an identity node, as the filter asks. -/
theorem sample_conditions_honoured : ∃ (listing : Listing Runner) (σ' : Session),
    getAll Sample.settings Sample.engineFilter Sample.listingSession = (.ok listing, σ') ∧
      ∃ counted, listing.items <:+: counted ∧ counted.length = 1 ∧
        ∀ r ∈ counted, (Runner.attr r "service").same (.str "identity") = true := by
  have one : (getAll Sample.settings Sample.engineFilter
      Sample.listingSession).1.toOption.any (·.total == 1) = true := by decide +kernel
  obtain ⟨listing, σ', listed, one⟩ := exists_of_any one
  obtain ⟨⟨counted, part, total, all⟩, -⟩ := memory_conditions_honoured listed
  refine ⟨listing, σ', listed, counted, part, total.symm.trans (beq_iff_eq.mp one), ?_⟩
  exact fun r mem => all r mem ⟨"service", .json (.str "identity")⟩ List.mem_cons_self (by decide)

/-- A condition that is not evaluated in memory need not hold: the runner is listed although docker
executes it. -/
theorem engine_condition_ignored : ∃ (listing : Listing Runner) (σ' : Session),
    getAll Sample.settings Sample.engineFilter Sample.listingSession = (.ok listing, σ') ∧
      ∃ r ∈ listing.items, ∃ c ∈ Sample.engineFilter.conditions,
        (Runner.attr r c.field).same c.operand.toValue = false := by
  have shown : (getAll Sample.settings Sample.engineFilter
      Sample.listingSession).1.toOption.any (!·.items.isEmpty) = true := by decide +kernel
  obtain ⟨listing, σ', listed, shown⟩ := exists_of_any shown
  have some : listing.items ≠ [] := by simpa using shown
  obtain ⟨r, mem⟩ := List.exists_mem_of_ne_nil _ some
  exact ⟨listing, σ', listed, r, mem, ⟨"exec", .json (.str "podman")⟩,
    List.mem_cons_of_mem _ List.mem_cons_self, rfl⟩

/-! ## Conditions on the label -/

/-- A label condition that is the only one asks for the pairs that its label writes. -/
lemma ownerFilters?_of_single {c : Condition} (single : labelConditions f = [c]) :
    ownerFilters? s f = c.operand.asLabel.read.map fun models =>
      (Model.writeAll s.docker.keyPrefix secretFields models).toOption.map (·.map assignment) := by
  unfold ownerFilters?
  rw [condition?_eq_some.mpr single]

/-- Unless there is one condition on the label, none is found. -/
lemma condition?_label_of_not_single (several : (labelConditions f).length ≠ 1) :
    f.condition? "label" = none := by
  refine Option.eq_none_iff_forall_ne_some.mpr fun c found => several ?_
  rw [labelConditions, condition?_eq_some.mp found]
  rfl

/-- A condition on the label that is the only one is pushed down as a whole: docker is asked for
every pair that it writes, or when it cannot be read for nothing at all, and the read fails. Of
several conditions on the label none is pushed down, and they make no difference. -/
theorem single_label_condition_pushed (s : Settings) (f : Filter) (σ : Session) :
    (∃ events, (getAll s f σ).2.log = σ.log ++ events ∧
      ∀ e ∈ events, ∀ args, listing? e = some args →
        ∃ project, projectFilter? s f = some project ∧
          ((∃ c models labels, labelConditions f = [c] ∧ c.operand.asLabel.read = .ok models ∧
              Model.writeAll s.docker.keyPrefix secretFields models = .ok labels ∧
              labelFilters args = project :: labels.map assignment) ∨
            (labelConditions f).length ≠ 1 ∧ labelFilters args = [project])) ∧
    (∀ c e, labelConditions f = [c] → c.operand.asLabel.read = .error e →
      (projectFilter? s f).isSome → getAll s f σ = (.error e, σ)) ∧
    ((labelConditions f).length ≠ 1 → getAll s (onFields (· != "label") f) σ = getAll s f σ) := by
  refine ⟨?_, fun c e single refused service => ?_, fun several => ?_⟩
  · obtain ⟨events, grew⟩ := getAll_asks s f σ
    refine ⟨events, grew.log, fun e mem args found => ?_⟩
    obtain ⟨⟨q, query, asked⟩, lists⟩ := (grew.asks e mem).of_listing? found
    obtain ⟨project, owners, states, service, read, -, rfl⟩ := queryOf?_some query
    rw [(filters_toArgs (asked.toArgs lists)).1]
    refine ⟨project, service, ?_⟩
    by_cases single : (labelConditions f).length = 1
    · obtain ⟨c, single⟩ := List.length_eq_one_iff.mp single
      rw [ownerFilters?_of_single single] at read
      obtain ⟨models, readable, pairs⟩ := map_eq_ok.mp read
      obtain ⟨labels, written, rfl⟩ := Option.map_eq_some_iff.mp pairs
      exact .inl ⟨c, models, labels, single, readable, toOption_eq_some.mp written, rfl⟩
    · unfold ownerFilters? at read
      rw [condition?_label_of_not_single single] at read
      cases read
      exact .inr ⟨single, rfl⟩
  · obtain ⟨project, service⟩ := Option.isSome_iff_exists.mp service
    apply getAll_refused
    unfold queryOf?
    simp only [service, ownerFilters?_of_single single, refused]
    rfl
  · rw [getAll_onFields (by decide)]
    have none : labelConditions (onFields (· != "label") f) = [] := by
      refine List.filter_eq_nil_iff.mpr fun c mem => ?_
      simpa using (List.mem_filter.mp mem).2
    rw [condition?_label_of_not_single several, condition?_label_of_not_single (by simp [none])]

/-- A filter with two conditions on the label, the second of which names no kind of owner. -/
def Sample.labelsFilter : Filter :=
  (Filter.default.require "label" (.label (.one ⟨.str "identity", [("id", .str "1")]⟩))).require
    "label" (.label (.one ⟨.str "favorites", [("id", .str "1")]⟩))

/-- Of two conditions on the label neither is pushed down, and one that cannot be read is not
refused. -/
theorem second_label_condition_dropped :
    (∃ c ∈ labelConditions Sample.labelsFilter, ∃ models labels,
      c.operand.asLabel.read = .ok models ∧
      Model.writeAll Sample.settings.docker.keyPrefix secretFields models = .ok labels ∧
      ∃ p ∈ labels, ∃ e ∈ (getAll Sample.settings Sample.labelsFilter Sample.listingSession).2.log,
      ∃ args, listing? e = some args ∧ assignment p ∉ labelFilters args) ∧
    (∃ c ∈ labelConditions Sample.labelsFilter, ∃ e, c.operand.asLabel.read = .error e) ∧
    ∃ listing,
      (getAll Sample.settings Sample.labelsFilter Sample.listingSession).1 = .ok listing := by
  have missing : ((getAll Sample.settings Sample.labelsFilter
      Sample.listingSession).2.log.filterMap listing?).any (fun args =>
        !(labelFilters args).contains
          (assignment (fieldKey Sample.settings.docker.keyPrefix .identity "id", "1"))) = true := by
    decide +kernel
  have answered : (getAll Sample.settings Sample.labelsFilter
      Sample.listingSession).1.toOption.any (fun _ => true) = true := by decide +kernel
  refine ⟨⟨_, List.mem_cons_self, [⟨.identity, [("id", .text "1")]⟩], _, rfl, rfl, (_, "1"),
    List.mem_cons_self, ?_⟩, ⟨_, List.mem_cons_of_mem _ List.mem_cons_self, _, rfl⟩, ?_⟩
  · obtain ⟨args, listed, lacks⟩ := List.any_eq_true.mp missing
    obtain ⟨e, mem, found⟩ := List.mem_filterMap.mp listed
    exact ⟨e, mem, args, found, by simpa using lacks⟩
  · obtain ⟨listing, σ', listed, -⟩ := exists_of_any answered
    exact ⟨listing, congrArg Prod.fst listed⟩

end ProxyFleet.Discovery
