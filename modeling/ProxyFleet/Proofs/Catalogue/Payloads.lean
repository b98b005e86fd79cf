import ProxyFleet.Proofs.Catalogue.Join

/-!
# Payloads of the discovery service

A read of the discovery service is meant to fail with an unknown kind of network, or with whatever
went wrong below wrapped. Once its request can be written, what it fails with depends on the answer
alone, and it does fail so for all but two kinds of answers: those that are nested too deeply to be
read, and those in which the first row that is no proposal has a location or a quality that is no
object.
-/

namespace ProxyFleet.Catalogue

variable {now : Moment} {row j : Json} {p : Provider} {reply : Web.Reply}

/-! ## What the boundary catches -/

/-- The failures that reads of the discovery service are meant to end with. -/
inductive Documented : Failure → Prop where
  | ipType : Documented (.incompleteInput ["provider_ip_type"])
  | wrapped {cause} : Documented (.repository cause false none)

/-- Whether an outcome is no failure but one that reads are meant to end with. -/
abbrev Reported {α : Type} (x : Except Failure α) : Prop := FailsWith Documented x

/-- Whether a failure is one that reads are meant to end with as soon as the boundary has seen
it. -/
def Caught (e : Failure) : Prop := Documented e ∨ isServiceFailure e = true

/-- What passes the boundary is documented when what comes to it is caught. -/
lemma reported_iff {α : Type} {x : Except Failure α} :
    Reported (reported x) ↔ FailsWith Caught x := by
  cases x with
  | ok a => exact ⟨fun _ => .ok a, fun _ => .ok a⟩
  | error e =>
    show FailsWith Documented (.error _) ↔ FailsWith Caught (.error e)
    rw [FailsWith.error_iff, FailsWith.error_iff, Caught]
    split
    · rename_i known
      exact ⟨fun _ => .inr known, fun _ => .wrapped⟩
    · rename_i foreign
      exact ⟨.inl, fun h => h.resolve_right foreign⟩

/-- A member that is asked of what is no object is not caught. -/
lemma not_caught_noAttribute : ¬ Caught .noAttribute := by
  rintro (⟨⟨⟩⟩ | ⟨⟨⟩⟩)

/-- A document that is nested too deeply is not caught. -/
lemma not_caught_tooDeep {object : Bool} : ¬ Caught (.tooDeep object) := by
  rintro (⟨⟨⟩⟩ | ⟨⟨⟩⟩)

/-- A missing member is caught. -/
lemma require_caught (j : Json) (key : Text) : FailsWith Caught (j.require key) := by
  cases j with
  | obj ms =>
    unfold Json.require
    dsimp only
    split
    · exact .ok _
    · exact .error (.inr rfl)
  | _ => exact .error (.inr rfl)

/-- An identity that is no text is caught. -/
lemma readIdentity_caught (j : Json) : FailsWith Caught (readIdentity j) := by
  cases j with
  | str s => exact .ok s
  | _ => exact .error (.inr rfl)

/-- An identity without bytes is caught. -/
lemma idOf_caught (identity : Text) : FailsWith Caught (idOf identity) := by
  unfold idOf
  split
  · exact .ok _
  · exact .error (.inr rfl)

/-- An unknown kind of network is caught, when the location is an object. -/
lemma readIpType_caught (ms : List (Text × Json)) : FailsWith Caught (readIpType (.obj ms)) := by
  refine (FailsWith.ok _).bind fun kind => ?_
  split
  · exact .ok _
  · exact .error (.inl .ipType)

/-! ## Rows -/

/-- Whether a row has a location that is no object, or all that a proposal has but a quality that is
no object. -/
inductive Misshapen (row : Json) : Prop where
  | location {location} : row.member? "location" = some location → (∀ ms, location ≠ .obj ms) →
    Misshapen row
  | quality {location identity quality} {t : IpType} : row.member? "location" = some location →
    location.member? "ip_type" = some (.str t.name) →
    row.member? "provider_id" = some (.str identity) → (nameId? identity).isSome →
    row.member? "quality" = some quality → quality.isBlank = false → (∀ ms, quality ≠ .obj ms) →
    Misshapen row

/-- A row that is read as a provider is well formed. -/
lemma isProposal_of_read (h : readProposal now row = .ok p) : IsProposal row := by
  obtain ⟨location, _, _, located, looked, kind, named, derived, -, inside⟩ := steps_of_read h
  obtain ⟨-, rfl⟩ := Json.lookup_eq_ok.mp looked
  exact ⟨⟨_, Json.require_eq_ok.mp named, Option.isSome_of_eq_some (idOf_eq_ok.mp derived)⟩,
    ⟨location, Json.require_eq_ok.mp located, _, readIpType_eq_ok.mp kind⟩,
    Json.exists_orEmpty.mp (Json.lookup_eq_ok.mp inside).1⟩

/-- The members of a location or a quality that is no object cannot be asked for. -/
lemma Misshapen.read (h : Misshapen row) : readProposal now row = .error .noAttribute := by
  cases h with
  | location located other =>
    obtain ⟨ms, rfl⟩ := Json.exists_obj located
    simp only [readProposal, Json.require_eq_ok.mpr located, ok_bind, readIpType,
      Json.lookup_other other]
    rfl
  | @quality location identity quality t located kind named derived given some other =>
    obtain ⟨ms, rfl⟩ := Json.exists_obj located
    obtain ⟨members, rfl⟩ := Json.exists_obj kind
    obtain ⟨id, derived⟩ := Option.isSome_iff_exists.mp derived
    have looked := Json.lookup_eq_ok.mpr ⟨⟨ms, rfl⟩, (congrArg (·.getD .null) given).symm⟩
    simp only [readProposal, Json.require_eq_ok.mpr located, Json.require_eq_ok.mpr named, looked,
      readIpType_eq_ok.mpr kind, readIdentity, idOf_eq_ok.mpr derived, ok_bind, Option.getD_some,
      Json.orEmpty, some, Bool.false_eq_true, if_false, Json.lookup_other other]
    rfl

/-- Whatever else is wrong with a row is caught. -/
lemma readProposal_caught (h : ¬ Misshapen row) : FailsWith Caught (readProposal now row) := by
  refine FailsWith.bind_of_ok (require_caught _ _) fun location located => ?_
  have located := Json.require_eq_ok.mp located
  obtain ⟨ms, rfl⟩ := Json.exists_obj located
  obtain ⟨members, rfl⟩ : ∃ members, location = .obj members := by
    by_contra other
    exact h (.location located (not_exists.mp other))
  refine (FailsWith.ok (((Json.obj ms).member? "quality").getD .null)).bind_of_ok fun q looked => ?_
  cases looked
  refine (readIpType_caught members).bind_of_ok fun t kind => ?_
  refine FailsWith.bind_of_ok (require_caught _ _) fun j given => ?_
  refine (readIdentity_caught j).bind_of_ok fun identity named => ?_
  refine (idOf_caught identity).bind_of_ok fun id derived => ?_
  obtain ⟨qs, shaped⟩ : ∃ qs, (((Json.obj ms).member? "quality").getD .null).orEmpty = .obj qs := by
    refine Json.exists_orEmpty.mpr fun quality present => ?_
    by_contra other
    obtain ⟨some, other⟩ := not_or.mp other
    cases readIdentity_eq_ok.mp named
    exact h (.quality located (readIpType_eq_ok.mp kind) (Json.require_eq_ok.mp given)
      (Option.isSome_of_eq_some (idOf_eq_ok.mp derived)) present (Bool.eq_false_iff.mpr some)
      (not_exists.mp other))
  rw [shaped]
  exact .ok _

/-- A row is read exactly when it is a proposal. -/
lemma exists_read_iff : (∃ p, readProposal now row = .ok p) ↔ IsProposal row :=
  ⟨fun ⟨_, read⟩ => isProposal_of_read read, fun h => exists_read h now⟩

/-! ## Documents -/

/-- Whether a document lists nothing but proposals. -/
def Lists (j : Json) : Prop :=
  j.isBlank = true ∨ ∃ rows, j = .arr rows ∧ ∀ row ∈ rows, IsProposal row

/-- Whether the first row of a document that is no proposal is misshapen. -/
def Derails (j : Json) : Prop :=
  ∃ before row after, j = .arr (before ++ row :: after) ∧ (∀ b ∈ before, IsProposal b) ∧
    Misshapen row

/-- Nothing is listed by a blank document. -/
lemma readProposals_blank (blank : j.isBlank = true) : readProposals now j = .ok [] := by
  unfold readProposals
  rw [blank]
  rfl

/-- A document that is given but no list of rows is refused. -/
lemma readProposals_other (given : j.isBlank = false) (other : ∀ rows, j ≠ .arr rows) :
    readProposals now j = .error .wrongType := by
  unfold readProposals
  rw [given]
  cases j with
  | arr rows => exact absurd rfl (other rows)
  | obj ms =>
    cases ms with
    | nil => cases given
    | cons => rfl
  | str s =>
    cases s with
    | nil => cases given
    | cons => rfl
  | _ => rfl

/-- A document is read when it lists proposals. -/
lemma exists_readProposals : (∃ ps, readProposals now j = .ok ps) ↔ Lists j := by
  by_cases listed : ∃ rows, j = .arr rows
  · obtain ⟨rows, rfl⟩ := listed
    constructor
    · rintro ⟨ps, read⟩
      rw [readProposals_arr] at read
      exact .inr ⟨rows, rfl, fun row mem => exists_read_iff.mp (forall_of_mapM read row mem)⟩
    · rintro (blank | ⟨_, ⟨⟩, proposals⟩)
      · exact ⟨[], readProposals_blank blank⟩
      · rw [readProposals_arr]
        exact ⟨_, mapM_readProposal proposals⟩
  · cases given : j.isBlank with
    | true => exact ⟨fun _ => .inl given, fun _ => ⟨[], readProposals_blank given⟩⟩
    | false =>
      rw [readProposals_other given (not_exists.mp listed)]
      refine ⟨nofun, ?_⟩
      rintro (blank | ⟨rows, eq, -⟩)
      · cases given.symm.trans blank
      · exact absurd ⟨rows, eq⟩ listed

/-- A document derails with a member that is asked of what is no object. -/
lemma Derails.read (h : Derails j) : readProposals now j = .error .noAttribute := by
  obtain ⟨before, row, after, rfl, proposals, misshapen⟩ := h
  rw [readProposals_arr, mapM_eq_error]
  exact ⟨before, row, after, rfl, fun b mem => exists_read (proposals b mem) now, misshapen.read⟩

/-- The rows of a document are read up to the first one that is no proposal. -/
lemma readProposals_caught : FailsWith Caught (readProposals now j) ↔ ¬ Derails j := by
  constructor
  · intro caught derails
    exact not_caught_noAttribute (caught _ derails.read)
  · intro straight e failed
    by_cases listed : ∃ rows, j = .arr rows
    · obtain ⟨rows, rfl⟩ := listed
      rw [readProposals_arr, mapM_eq_error] at failed
      obtain ⟨before, row, after, rfl, read, failed⟩ := failed
      have shaped : ¬ Misshapen row := fun misshapen =>
        straight ⟨before, row, after, rfl, fun b mem => exists_read_iff.mp (read b mem), misshapen⟩
      exact readProposal_caught shaped e failed
    · cases given : j.isBlank with
      | true => cases (readProposals_blank given).symm.trans failed
      | false =>
        cases (readProposals_other given (not_exists.mp listed)).symm.trans failed
        exact .inr rfl

/-- Nothing is reported of a document that derails. -/
lemma fetch_derailed {s : ApiSettings} {params : List (Text × Text)} {web : Web.Session}
    (answer : (Web.nextReply web.replies).1.document s.url = .ok j) (h : Derails j) :
    (fetch s params web).1 = .error .noAttribute := by
  show reported (((Web.nextReply web.replies).1.document s.url).bind (readProposals s.now)) = _
  rw [answer]
  show reported (readProposals s.now j) = _
  rw [h.read]
  rfl

/-! ## Answers -/

/-- Whether a reply is an answer with a status that is no error, and reading its body comes to an
outcome. -/
def Carries (reply : Web.Reply) (outcome : Except Json.ReadError Json) : Prop :=
  ∃ status reason body, reply = .answer status reason body ∧ ¬ (400 ≤ status ∧ status < 600) ∧
    Json.read body = outcome

/-- Whether an answer lists nothing but proposals. -/
def ListsProposals (reply : Web.Reply) : Prop := ∃ j, Carries reply (.ok j) ∧ Lists j

/-- Whether the failure of a read is none of those that are meant: the body of the answer is nested
too deeply, or its first row that is no proposal is misshapen. -/
def Escapes (reply : Web.Reply) : Prop :=
  (∃ object, Carries reply (.error (.tooDeep object))) ∨ ∃ j, Carries reply (.ok j) ∧ Derails j

/-- A status of 400 to 599 is an error. -/
lemma statusFailure?_cases (url reason : Text) (status : Int) :
    (400 ≤ status ∧ status < 600) ∧
        (∃ text, Web.statusFailure? url reason status = some (.request "HTTPError" text)) ∨
      ¬ (400 ≤ status ∧ status < 600) ∧ Web.statusFailure? url reason status = none := by
  unfold Web.statusFailure?
  split
  · exact .inl ⟨by omega, _, rfl⟩
  · split
    · exact .inl ⟨by omega, _, rfl⟩
    · exact .inr ⟨by omega, rfl⟩

/-- What a reply comes to: a failure of the request, or what reading its body comes to. -/
lemma document_cases (requested : ∀ cause, reply = .failed cause →
      ∃ kind text, cause = .request kind text) (url : Text) :
    (∃ kind text, reply.document url = .error (.request kind text) ∧
      ∀ outcome, ¬ Carries reply outcome) ∨
    ∃ body, reply.document url = Docker.readDocument body ∧
      ∀ outcome, Carries reply outcome ↔ Json.read body = outcome := by
  cases reply with
  | failed cause =>
    obtain ⟨kind, text, rfl⟩ := requested cause rfl
    refine .inl ⟨kind, text, rfl, ?_⟩
    rintro outcome ⟨_, _, _, ⟨⟩, -⟩
  | answer status reason body =>
    rcases statusFailure?_cases url reason status with ⟨error, text, failure⟩ | ⟨fine, none⟩
    · refine .inl ⟨"HTTPError", text, ?_, ?_⟩
      · simp only [Web.Reply.document, failure]
      · rintro outcome ⟨_, _, _, ⟨⟩, fine, -⟩
        exact fine error
    · refine .inr ⟨body, ?_, fun outcome => ⟨?_, fun read => ⟨_, _, _, rfl, fine, read⟩⟩⟩
      · simp only [Web.Reply.document, none]
      · rintro ⟨_, _, _, ⟨⟩, -, read⟩
        exact read

section
variable (requested : ∀ cause, reply = .failed cause → ∃ kind text, cause = .request kind text)
include requested

/-- A reply has a document when it carries one. -/
lemma document_ok_iff (url : Text) : reply.document url = .ok j ↔ Carries reply (.ok j) := by
  rcases document_cases requested url with ⟨_, _, failed, none⟩ | ⟨body, eq, carries⟩
  · rw [failed]
    exact ⟨nofun, fun h => absurd h (none _)⟩
  · rw [eq, carries, Docker.readDocument]
    split <;> rename_i read <;> simp [read]

/-- Of the failures to get a document only one is not caught. -/
lemma document_caught (url : Text) : FailsWith Caught (reply.document url) ↔
    ¬ ∃ object, Carries reply (.error (.tooDeep object)) := by
  rcases document_cases requested url with ⟨_, _, failed, none⟩ | ⟨body, eq, carries⟩
  · rw [failed]
    exact ⟨fun _ => not_exists.mpr fun _ => none _, fun _ => .error (.inr rfl)⟩
  · have malformed : Caught .malformedJson := .inr rfl
    have numberTooLong : Caught .badNumeral := .inr rfl
    simp only [eq, carries, Docker.readDocument]
    rcases Json.read body with e | j
    · cases e <;> simp [FailsWith.error_iff, malformed, numberTooLong, not_caught_tooDeep]
    · simp [FailsWith.ok]

/-- Providers come from a reply that lists proposals, and from no other. -/
lemma exists_providers (url : Text) :
    (∃ ps, (reply.document url).bind (readProposals now) = .ok ps) ↔ ListsProposals reply := by
  constructor
  · rintro ⟨ps, h⟩
    obtain ⟨j, document, read⟩ := bind_eq_ok.mp h
    exact ⟨j, (document_ok_iff requested url).mp document, exists_readProposals.mp ⟨ps, read⟩⟩
  · rintro ⟨j, carried, lists⟩
    obtain ⟨ps, read⟩ := exists_readProposals.mpr lists
    exact ⟨ps, bind_eq_ok.mpr ⟨j, (document_ok_iff requested url).mpr carried, read⟩⟩

/-- What a reply fails with is caught unless it escapes. -/
lemma providers_caught (url : Text) :
    FailsWith Caught ((reply.document url).bind (readProposals now)) ↔ ¬ Escapes reply := by
  show FailsWith Caught (reply.document url >>= readProposals now) ↔ _
  rw [FailsWith.bind_iff, document_caught requested url, Escapes, not_or]
  simp only [document_ok_iff requested url, readProposals_caught, not_exists, not_and]

end

/-! ## Reads -/

/-- Whether a page can be cut as a filter wants it, if it wants one. -/
def Cuttable (f : Filter) : Prop :=
  f.unpaged.isBlank = true → f.page.count?.isSome ∧ f.limit.count?.isSome

/-- A page that cannot be counted fails in a way that is not meant. -/
lemma cut_reported {α : Type} {page limit : Extent} {xs : List α} :
    Reported (Listing.cut page limit xs) ↔ page.count?.isSome ∧ limit.count?.isSome := by
  have refused : ∀ {b : Bool}, ¬ Documented (if b then .overflow else .wrongType) := by
    rintro (_ | _) ⟨⟩
  unfold Listing.cut
  split
  · rename_i page limit given given'
    rw [given, given']
    exact ⟨fun _ => ⟨rfl, rfl⟩, fun _ => .ok _⟩
  · rename_i uncountable
    refine ⟨fun reported => absurd (reported _ rfl) refused, fun ⟨page, limit⟩ => ?_⟩
    obtain ⟨page, given⟩ := Option.isSome_iff_exists.mp page
    obtain ⟨limit, given'⟩ := Option.isSome_iff_exists.mp limit
    exact absurd given' (uncountable page limit given)

/-- A listing that is not sorted fails only for a page that cannot be cut. -/
lemma ofFilter_reported {α : Type} {attr : α → Text → Value} {fields : Option (List Text)}
    {f : Filter} (unsorted : f.sort = none) (xs : List α) :
    Reported (Listing.ofFilter attr fields f xs) ↔ Cuttable f := by
  unfold Listing.ofFilter Cuttable
  rw [unsorted]
  cases f.unpaged.isBlank with
  | false => exact ⟨fun _ => nofun, fun _ => .ok _⟩
  | true =>
    have paged : ∀ ys : List α, Reported (Listing.cut f.page f.limit ys >>= fun page =>
        pure (⟨page, ys.length⟩ : Listing α)) ↔ _ := fun ys => FailsWith.map_iff.trans cut_reported
    refine (paged _).trans ⟨fun h _ => h, fun h => h rfl⟩

/-- Whatever is answered, and whatever goes wrong with the request, a search fails only as it is
meant to unless the payload escapes. So does a listing that is not sorted, as long as its request
can be written and a page of the proposals that are listed can be cut. -/
theorem payload_failures_reported (s : ApiSettings) (w : World)
    (requested : ∀ cause, (Web.nextReply w.web.replies).1 = .failed cause →
      ∃ kind text, cause = .request kind text) :
    (∀ id, Reported ((Api.source s).getById id w).1 ↔
      ¬ Escapes (Web.nextReply w.web.replies).1) ∧
    ∀ f : Filter, f.sort = none → (Reported ((Api.source s).getAll f w).1 ↔
      hasParams f = true ∧ ¬ Escapes (Web.nextReply w.web.replies).1 ∧
        (ListsProposals (Web.nextReply w.web.replies).1 → Cuttable f)) := by
  have fetched : ∀ params, Reported (fetch s params w.web).1 ↔
      ¬ Escapes (Web.nextReply w.web.replies).1 := fun params =>
    reported_iff.trans (providers_caught requested s.url)
  have listed : ∀ params, (∃ ps, (fetch s params w.web).1 = .ok ps) ↔
      ListsProposals (Web.nextReply w.web.replies).1 := by
    intro params
    exact (exists_congr fun ps => reported_eq_ok).trans (exists_providers requested s.url)
  refine ⟨fun id => ?_, fun f unsorted => ?_⟩
  · rw [Api.run_getById]
    exact FailsWith.map_iff.trans (fetched _)
  · cases asks : hasParams f with
    | false =>
      rw [Api.run_getAll_refused asks]
      have undocumented : ¬ Documented .badNumeral := nofun
      exact iff_of_false (fun reported => undocumented (reported _ rfl)) fun h => nomatch h.1
    | true =>
      rw [Api.run_getAll asks, and_iff_right rfl]
      refine FailsWith.bind_iff.trans (and_congr (fetched _) ?_)
      simp only [ofFilter_reported unsorted, ← listed (paramsOf f), forall_exists_index]

namespace Sample

/-- A world in which the service refuses connections. -/
def unreachable : World :=
  { world "[]" [] with
    web := ⟨[.failed (.request "ConnectionError" "connection refused")], []⟩ }

/-- A world in which the service lists a proposal that has null for its location. -/
def nowhere : World := world "[\x7b\"provider_id\": \"0xa\", \"location\": null\x7d]" []

end Sample

/-- When the service refuses connections, reads fail as they are meant to. -/
theorem refused_connection_reported :
    Reported ((Api.source Sample.api).getById Sample.firstId Sample.unreachable).1 ∧
      Reported ((Api.source Sample.api).getAll .default Sample.unreachable).1 := by
  obtain ⟨one, all⟩ := payload_failures_reported Sample.api Sample.unreachable
    (by rintro _ ⟨⟩; exact ⟨_, _, rfl⟩)
  have caught : ¬ Escapes (Web.nextReply Sample.unreachable.web.replies).1 := by
    rintro (⟨_, _, _, _, ⟨⟩, -⟩ | ⟨_, ⟨_, _, _, ⟨⟩, -⟩, -⟩)
  exact ⟨(one _).mpr caught, (all .default rfl).mpr ⟨rfl, caught, fun _ _ => ⟨rfl, rfl⟩⟩⟩

/-- A location that is null makes both reads fail in a way that is not meant. -/
theorem null_location_escapes :
    ((Api.source Sample.api).getAll .default Sample.nowhere).1 = .error .noAttribute ∧
      ((Api.source Sample.api).getById Sample.firstId Sample.nowhere).1 = .error .noAttribute ∧
      ¬ Documented .noAttribute := by
  have read : Docker.readDocument "[\x7b\"provider_id\": \"0xa\", \"location\": null\x7d]" =
      .ok (.arr [.obj [("provider_id", .str "0xa"), ("location", .null)]]) := by cbv
  have answer : (Web.nextReply Sample.nowhere.web.replies).1.document Sample.api.url = _ :=
    (Sample.document_world _ []).trans read
  have derails : Derails (.arr [.obj [("provider_id", .str "0xa"), ("location", .null)]]) :=
    ⟨[], _, [], rfl, List.forall_mem_nil _, .location rfl fun _ eq => by cases eq⟩
  rw [Api.run_getAll rfl, Api.run_getById, fetch_derailed answer derails,
    fetch_derailed answer derails]
  exact ⟨rfl, rfl, fun documented => not_caught_noAttribute (.inl documented)⟩

end ProxyFleet.Catalogue
