import ProxyFleet.Proofs.Creation.Retries
import ProxyFleet.Proofs.Creation.Success
import ProxyFleet.Proofs.Discovery.Queries
import ProxyFleet.Proofs.Label.Scalar

/-!
# Failures at the boundary

Whatever docker answers, a creation and the reads of the inventory fail with failures of the fleet
only, if they fail. What docker makes fail is ordinary and so is wrapped; what is not wrapped fails
before docker is asked, or has been made a failure of the fleet already.
-/

namespace ProxyFleet

/-- Whether an outcome is no failure but one of the fleet's own. -/
abbrev Fleet {α : Type} (x : Except Failure α) : Prop := FailsWith (fun e => e.isFleet = true) x

/-! ## Reading labels and templates -/

/-- Scalar values of fields are read, or refused with a failure of the fleet. -/
lemma Entry.readFields_fleet {given : List (Text × Json)} (scalar : ∀ q ∈ given, q.2.Scalar)
    (fs : List Field) : Fleet (Entry.readFields given fs) := by
  induction fs with
  | nil => exact .ok _
  | cons f rest ih =>
    unfold readFields
    split
    · exact ih
    · rename_i j value
      split
      · rename_i read
        exact absurd read (FieldKind.read?_ne_error (scalar _ (Keyed.mem_of_get? value)))
      · exact .error rfl
      · exact ih.map

/-- So are the labels that have no others. -/
lemma Label.Scalar.read_fleet {l : Label} (scalar : l.Scalar) : Fleet l.read := by
  have entry : ∀ e ∈ l.entries, Fleet (Entry.read e) := by
    intro e mem
    unfold Entry.read
    split
    · exact .error rfl
    · split
      · exact .error rfl
      · exact (Entry.readFields_fleet (scalar _ mem) _).map
  have all : ∀ es ⊆ l.entries, Fleet (Entry.readAll es) := by
    intro es
    induction es with
    | nil => exact fun _ => .ok _
    | cons e rest ih =>
      intro sub
      obtain ⟨mem, sub⟩ := List.cons_subset.mp sub
      exact (entry e mem).bind fun _ => (ih sub).bind fun _ => .pure _
  unfold Label.read
  split
  · exact .error rfl
  · exact all _ (List.Subset.refl _)

namespace Creation

open Docker

variable {s : Settings} {service : Service} {o : Order} {r : Runner}

/-- A template with such a label is refused with a failure of the fleet only. -/
lemma Order.ofTemplate_fleet (scalar : r.label.Scalar) :
    Fleet (Order.ofTemplate service r) := by
  have found : ∀ ms owner, Fleet (Model.find ms owner) := fun _ _ => Model.find_failsWith rfl
  have required : ∀ m names, Fleet (requireFields m names) := by
    intro m names
    unfold requireFields
    split
    · exact .ok _
    · exact .error rfl
  refine scalar.read_fleet.bind fun models => ?_
  cases service with
  | identity =>
    refine (found _ _).bind fun _ => (required _ _).bind fun _ => ?_
    split
    · exact .error rfl
    · exact .pure _
  | connector =>
    refine (found _ _).bind fun _ => (required _ _).bind fun _ => (found _ _).bind fun _ =>
      (required _ _).bind fun _ => ?_
    split
    · exact .error rfl
    · exact .pure _
  | relay =>
    exact (found _ _).bind fun _ => (required _ _).bind fun _ => (found _ _).bind fun _ =>
      (required _ _).bind fun _ => (found _ _).bind fun _ => (required _ _).bind fun _ => .pure _

/-- However an attempt ends, what a creation makes of it is a failure of the fleet. -/
lemma Round.verdict_fleet (service : Service) (t : Round) : Fleet (t.verdict service) := by
  have final : ∀ port container e, (finalFailure service port container e).isFleet = true := by
    intro port container e
    unfold finalFailure
    split
    · rfl
    · split
      · assumption
      · rfl
  unfold Round.verdict
  split
  · exact .ok _
  · exact .error (final _ _ _)
  · exact .error rfl

/-- What is wrapped ends with a failure of the fleet, if it fails as it may. -/
lemma wrapFailure_fleet {α : Type} {x : Except Failure α} (h : Ordinary x) :
    Fleet (wrapFailure x) := by
  cases x with
  | ok a => exact .ok a
  | error e =>
    refine .error ?_
    unfold Failure.wrap
    rw [h e rfl, Bool.not_true, Bool.or_false]
    split
    · assumption
    · rfl

/-- A creation from such a template fails with failures of the fleet only. -/
lemma createRunner_fleet (scalar : r.label.Scalar) :
    Fails (fun e => e.isFleet = true) (createRunner s service r) := by
  refine .bind (.lift (Order.ofTemplate_fleet scalar)) fun o => .attempt fun σ => ?_
  have laid := (admits_preparing.layGroundwork s service o).ordinary σ
  refine .bind (.lift (wrapFailure_fleet laid)) fun g σ' => ?_
  obtain ⟨rounds, history⟩ := exists_history s service o g (s.maxAttempts - 1).toNat [] σ'
  obtain ⟨_, _, t, _, -, -, ended⟩ := history.last
  rw [ended]
  exact t.verdict_fleet service

end Creation

/-! ## Reading the inventory -/

namespace Discovery

open Docker Creation

variable {s : Settings}

/-- Finding runners asks for listings and inspections. -/
lemma runners_composed (s : Settings) (q : Query) :
    Composed (Commands ["ps", "inspect"]) (runners s q) := by
  refine (runners_finding s q).mono ?_
  rintro args (query | inspects)
  · exact ⟨"ps", by simp, Query.toArgs_head query⟩
  · exact Commands.mono (by simp) args inspects

/-- A filter on such a label is refused with a failure of the fleet only. -/
lemma queryOf?_fleet {f : Filter}
    (scalar : ∀ c ∈ f.conditions, c.field = "label" → c.operand.asLabel.Scalar) :
    Fleet (queryOf? s f) := by
  have owners : Fleet (ownerFilters? s f) := by
    unfold ownerFilters?
    split
    · exact .ok _
    · rename_i c found
      obtain ⟨mem, field⟩ := condition?_mem found
      exact (scalar c mem field).read_fleet.map
  unfold queryOf?
  split
  · exact .pure _
  · refine owners.bind fun _ => ?_
    split <;> exact .pure _

/-- A page of whole numbers is cut out of any list. -/
lemma ofFilter_fleet {α : Type} {attr : α → Text → Value} {fields : Option (List Text)} {f : Filter}
    (unsorted : f.sort = none) (page : f.page.count?.isSome) (limit : f.limit.count?.isSome)
    (xs : List α) : Fleet (Listing.ofFilter attr fields f xs) := by
  obtain ⟨page, eq⟩ := Option.isSome_iff_exists.mp page
  obtain ⟨limit, eq'⟩ := Option.isSome_iff_exists.mp limit
  have cut : ∀ ys : List α, Fleet (Listing.cut f.page f.limit ys) := by
    intro ys
    simp only [Listing.cut, eq, eq']
    exact .ok _
  unfold Listing.ofFilter
  rw [unsorted]
  refine (FailsWith.pure _).bind fun ordered => ?_
  split
  · exact .pure _
  · exact (cut _).bind fun _ => .pure _

/-- Finding runners under guard fails with failures of the fleet only, if what follows does. -/
lemma guardedRunners_fleet (s : Settings) (q : Query) {β : Type} {f : List Runner → Run β}
    (hf : ∀ rs, Fails (fun e => e.isFleet = true) (f rs)) :
    Fails (fun e => e.isFleet = true)
      (attempt (runners s q) >>= fun outcome => liftM (wrapFailure outcome) >>= f) :=
  .attempt fun σ => .bind (.lift (wrapFailure_fleet ((runners_composed s q).ordinary σ))) hf

/-- A search for an identifier fails with failures of the fleet only. -/
lemma getById_fleet (id : Text) : Fails (fun e => e.isFleet = true) (getById s id) :=
  guardedRunners_fleet s _ fun _ => .lift (.ok _)

/-- A listing for a filter that does not sort and cuts a page of whole numbers fails with failures
of the fleet only. -/
lemma getAll_fleet {f : Filter} (unsorted : f.sort = none) (page : f.page.count?.isSome)
    (limit : f.limit.count?.isSome)
    (scalar : ∀ c ∈ f.conditions, c.field = "label" → c.operand.asLabel.Scalar) :
    Fails (fun e => e.isFleet = true) (getAll s f) := by
  refine .bind (.lift (queryOf?_fleet scalar)) ?_
  rintro (_ | q)
  · exact .lift (.ok _)
  · exact guardedRunners_fleet s q fun rs => .lift (ofFilter_fleet unsorted page limit rs)

end Discovery

open Docker Creation Discovery

/-- Whatever docker answers, or fails to answer, a creation and the reads of the inventory fail with
failures of the fleet only. Nothing is assumed of templates and filters but that the field values of
labels are scalar, and of a filter that it does not sort and cuts a page of whole numbers. -/
theorem failures_reported (s : Settings) (σ : Session) :
    (∀ service r, r.label.Scalar → Fleet (createRunner s service r σ).1) ∧
    (∀ id, Fleet (getById s id σ).1) ∧
    ∀ f : Filter, f.sort = none → f.page.count?.isSome → f.limit.count?.isSome →
      (∀ c ∈ f.conditions, c.field = "label" → c.operand.asLabel.Scalar) →
      Fleet (getAll s f σ).1 :=
  ⟨fun _ _ scalar => createRunner_fleet scalar σ, fun id => getById_fleet id σ,
    fun _ unsorted page limit scalar => getAll_fleet unsorted page limit scalar σ⟩

/-- A session in which docker lists containers by bytes that are no text. -/
def garbledSession : Session where
  binary := "docker"
  answers := [("ps", [⟨⟨#[0xff]⟩, .empty, 0⟩])]
  log := []
  issued := 0

/-- When the listings of docker are no text, a creation and both reads fail with a failure of the
fleet. -/
theorem garbled_listing_reported :
    (∃ e, (createRunner Sample.settings .identity Sample.template garbledSession).1 = .error e ∧
      e.isFleet = true) ∧
    (∃ e, (getById Sample.settings "1" garbledSession).1 = .error e ∧ e.isFleet = true) ∧
    ∃ e, (getAll Sample.settings .default garbledSession).1 = .error e ∧ e.isFleet = true := by
  obtain ⟨creation, one, all⟩ := failures_reported Sample.settings garbledSession
  have failed : ∀ {α : Type} {x : Except Failure α}, x.toOption.isNone = true → Fleet x →
      ∃ e, x = .error e ∧ e.isFleet = true := by
    intro α x none fleet
    cases x with
    | ok => cases none
    | error e => exact ⟨e, rfl, fleet e rfl⟩
  refine ⟨failed (by decide +kernel) (creation .identity Sample.template ?_),
    failed (by decide +kernel) (one "1"),
    failed (by decide +kernel) (all .default rfl rfl rfl nofun)⟩
  intro e mem q given
  cases List.mem_singleton.mp mem
  simp only [List.mem_cons, List.not_mem_nil, or_false] at given
  rcases given with rfl | rfl | rfl <;> trivial

end ProxyFleet
