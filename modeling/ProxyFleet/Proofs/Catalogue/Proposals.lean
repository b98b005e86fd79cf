import ProxyFleet.Proofs.Catalogue.Running
import ProxyFleet.Proofs.Discovery.Queries
import ProxyFleet.Proofs.Docker.Document
import ProxyFleet.Proofs.Filter.Listing

/-!
# Proposals

The rows of the discovery service are read as providers, one for one. A request may be answered with
any rows out of all proposals, in their order, as long as those that its parameters ask for are
among them; the conditions that became parameters select the same providers from either list.
-/

namespace ProxyFleet

/-- Only a text equals a text. -/
lemma Value.same_str {j : Json} {t : Text} :
    (Value.ofJson j).same (.str t) = true ↔ j = .str t := by
  cases j <;> simp [ofJson, same, number?]

/-- A kind of network is read from its name and from nothing else. -/
lemma IpType.ofJson?_eq_some {j : Json} {t : IpType} : ofJson? j = some t ↔ j = .str t.name := by
  constructor
  · intro h
    cases j with
    | str s =>
      have eq : t.name = s := by simpa using List.find?_some h
      rw [eq]
    | _ => cases h
  · rintro rfl
    cases t <;> decide

namespace Catalogue

variable {s : ApiSettings} {f : Filter} {row : Json} {rows R : List Json} {p : Provider}
  {ps : List Provider} {params : List (Text × Text)} {now : Moment} {web : Web.Session}

/-! ## Reading proposals -/

/-- Whether a row is well formed: an object with an identity that has bytes, with a location in a
known kind of network, and with nothing or an object as its quality. -/
structure IsProposal (row : Json) : Prop where
  identity : ∃ identity, row.member? "provider_id" = some (.str identity) ∧
    (nameId? identity).isSome
  location : ∃ location, row.member? "location" = some location ∧
    ∃ t : IpType, location.member? "ip_type" = some (.str t.name)
  quality : ∀ j, row.member? "quality" = some j → j.isBlank ∨ ∃ members, j = .obj members

/-- Whether a row names the identity and the location of a provider, whose identifier is derived
from its identity. -/
structure Names (row : Json) (p : Provider) : Prop where
  identity : row.member? "provider_id" = some (.str p.identity)
  id : nameId? p.identity = some p.id
  location : ∃ location, row.member? "location" = some location ∧
    location.member? "ip_type" = some (.str p.ipType.name) ∧
    p.country = (location.member? "country").getD .null

/-- The kind of network of a location is that of its member with a name. -/
lemma readIpType_eq_ok {location : Json} {t : IpType} :
    readIpType location = .ok t ↔ location.member? "ip_type" = some (.str t.name) := by
  constructor
  · intro h
    obtain ⟨member, found, h⟩ := bind_eq_ok.mp h
    obtain ⟨-, rfl⟩ := Json.lookup_eq_ok.mp found
    split at h
    · rename_i t' known
      cases h
      have known := IpType.ofJson?_eq_some.mp known
      cases eq : location.member? "ip_type" with
      | none => rw [eq] at known; cases known
      | some j => rw [eq] at known; exact congrArg some known
    · cases h
  · intro h
    obtain ⟨ms, rfl⟩ := Json.exists_obj h
    have looked : (Json.obj ms).lookup "ip_type" = .ok (.str t.name) :=
      Json.lookup_eq_ok.mpr ⟨⟨ms, rfl⟩, by rw [h]; rfl⟩
    simp only [readIpType, looked, ok_bind, IpType.ofJson?_eq_some.mpr rfl]
    rfl

/-- An identity is a text. -/
lemma readIdentity_eq_ok {j : Json} {identity : Text} :
    readIdentity j = .ok identity ↔ j = .str identity := by
  cases j <;> simp [readIdentity]

/-- The identifier of an identity is the one that derives from it. -/
lemma idOf_eq_ok {identity id : Text} : idOf identity = .ok id ↔ nameId? identity = some id := by
  unfold idOf
  split <;> rename_i derived <;> simp [derived]

/-- The steps in which a provider is read from a row. -/
lemma steps_of_read (h : readProposal now row = .ok p) : ∃ location quality level,
    row.require "location" = .ok location ∧ row.lookup "quality" = .ok quality ∧
      readIpType location = .ok p.ipType ∧ row.require "provider_id" = .ok (.str p.identity) ∧
      idOf p.identity = .ok p.id ∧ location.lookup "country" = .ok p.country ∧
      quality.orEmpty.lookup "quality" = .ok level := by
  obtain ⟨location, located, h⟩ := bind_eq_ok.mp h
  obtain ⟨quality, looked, h⟩ := bind_eq_ok.mp h
  obtain ⟨ipType, kind, h⟩ := bind_eq_ok.mp h
  obtain ⟨j, given, h⟩ := bind_eq_ok.mp h
  obtain ⟨identity, named, h⟩ := bind_eq_ok.mp h
  obtain ⟨id, derived, h⟩ := bind_eq_ok.mp h
  obtain ⟨country, inside, h⟩ := bind_eq_ok.mp h
  obtain ⟨level, measured, h⟩ := bind_eq_ok.mp h
  obtain ⟨_, -, h⟩ := bind_eq_ok.mp h
  obtain ⟨_, -, h⟩ := bind_eq_ok.mp h
  cases h
  cases readIdentity_eq_ok.mp named
  exact ⟨location, quality, _, located, looked, kind, given, derived, inside, measured⟩

/-- A provider that is read from a row is named by it. -/
lemma names_of_read (h : readProposal now row = .ok p) : Names row p := by
  obtain ⟨location, _, _, located, -, kind, named, derived, inside, -⟩ := steps_of_read h
  exact ⟨Json.require_eq_ok.mp named, idOf_eq_ok.mp derived, location,
    Json.require_eq_ok.mp located, readIpType_eq_ok.mp kind, (Json.lookup_eq_ok.mp inside).2⟩

/-- A row that is well formed is read as a provider. -/
lemma exists_read (h : IsProposal row) (now : Moment) : ∃ p, readProposal now row = .ok p := by
  obtain ⟨identity, named, derived⟩ := h.identity
  obtain ⟨id, derived⟩ := Option.isSome_iff_exists.mp derived
  obtain ⟨location, located, t, kind⟩ := h.location
  obtain ⟨ms, rfl⟩ := Json.exists_obj named
  obtain ⟨members, rfl⟩ := Json.exists_obj kind
  obtain ⟨qs, quality⟩ := Json.exists_orEmpty.mpr h.quality
  have looked : ∀ key ms, (Json.obj ms).lookup key = .ok (((Json.obj ms).member? key).getD .null) :=
    fun key ms => rfl
  have ipType : readIpType (.obj members) = .ok t := readIpType_eq_ok.mpr kind
  simp only [readProposal, Json.require_eq_ok.mpr located, Json.require_eq_ok.mpr named, ok_bind,
    looked, quality, ipType, readIdentity, idOf_eq_ok.mpr derived]
  exact ⟨_, rfl⟩

/-- The providers of rows that are well formed. -/
def providersOf (now : Moment) (rows : List Json) : List Provider :=
  rows.filterMap fun row => (readProposal now row).toOption

/-- The providers of rows are those that the rows are read as. -/
lemma mem_providersOf : p ∈ providersOf now rows ↔ ∃ row ∈ rows, readProposal now row = .ok p := by
  simp [providersOf, toOption_eq_some]

/-- Well-formed rows are read as their providers. -/
lemma mapM_readProposal (proposals : ∀ row ∈ rows, IsProposal row) :
    rows.mapM (readProposal now) = .ok (providersOf now rows) := by
  induction rows with
  | nil => rfl
  | cons row rest ih =>
    obtain ⟨p, read⟩ := exists_read (proposals row List.mem_cons_self) now
    have others := ih fun row' mem => proposals row' (List.mem_cons_of_mem _ mem)
    simp only [List.mapM_cons, read, others, ok_bind, providersOf, List.filterMap_cons]
    rfl

/-- The rows of a document are read one by one. -/
lemma readProposals_arr : readProposals now (.arr rows) = rows.mapM (readProposal now) := by
  cases rows <;> rfl

/-- The boundary lets values pass. -/
lemma reported_eq_ok {α : Type} {x : Except Failure α} {a : α} :
    reported x = .ok a ↔ x = .ok a := by
  cases x with
  | ok b => exact Iff.rfl
  | error e => exact ⟨nofun, nofun⟩

/-- An answer with rows that are well formed gives their providers. -/
lemma fetch_ok (answer : (Web.nextReply web.replies).1.document s.url = .ok (.arr rows))
    (proposals : ∀ row ∈ rows, IsProposal row) :
    (fetch s params web).1 = .ok (providersOf s.now rows) := by
  show reported (((Web.nextReply web.replies).1.document s.url).bind (readProposals s.now)) = _
  rw [answer]
  show reported (readProposals s.now (.arr rows)) = _
  rw [readProposals_arr, mapM_readProposal proposals]
  rfl

/-- Whatever is answered, the providers are those that rows name. -/
lemma names_of_fetch (h : (fetch s params web).1 = .ok ps) (mem : p ∈ ps) :
    ∃ row, Names row p := by
  obtain ⟨document, -, read⟩ := bind_eq_ok.mp (reported_eq_ok.mp h)
  obtain ⟨rows, -, read⟩ := bind_eq_ok.mp read
  obtain ⟨row, -, read⟩ := exists_of_mem_mapM read mem
  exact ⟨row, names_of_read read⟩

/-! ## What a request is answered with -/

/-- Where proposals have the values that the parameters of a request ask for. -/
def paramPaths : List (Text × List Text) :=
  [("location_country", ["location", "country"]), ("provider_id", ["provider_id"]),
   ("ip_type", ["location", "ip_type"])]

/-- Whether a row has the value that a parameter asks for; further parameters ask for nothing. -/
def meets (row : Json) (param : Text × Text) : Bool :=
  match Keyed.get? param.1 paramPaths with
  | none => true
  | some path => (row.at? path).bind Json.string? == some param.2

/-- Whether rows may be the answer to parameters out of all proposals: they stand in their order,
and those that the parameters ask for are all among them. -/
structure Serves (R : List Json) (params : List (Text × Text)) (rows : List Json) : Prop where
  part : rows.Sublist R
  whole : (R.filter fun row => params.all (meets row)).Sublist rows

/-- All proposals may always be answered. -/
lemma Serves.refl (R : List Json) (params : List (Text × Text)) : Serves R params R :=
  ⟨.refl R, List.filter_sublist⟩

/-- Of a permitted answer the same rows meet the parameters as of all rows. -/
lemma Serves.filter_eq (h : Serves R params rows) :
    (rows.filter fun row => params.all (meets row)) = R.filter fun row => params.all (meets row) :=
  Listing.filter_eq_of_sublist h.part h.whole

/-- A request that asks for nothing is answered with all proposals. -/
lemma Serves.eq (h : Serves R baseParams rows) : rows = R := by
  have all : ∀ row, baseParams.all (meets row) = true := fun row => rfl
  have whole := h.whole
  simp only [all, List.filter_true] at whole
  exact h.part.antisymm whole

/-- Whether the request that an operation makes is answered by rows that may be the answer to it. -/
def Served {α : Type} (s : ApiSettings) (R : List Json) (x : World.Run α) (w : World) : Prop :=
  ∀ params, (x w).2.web.log = w.web.log ++ [s.request params] →
    ∃ rows, (Web.nextReply w.web.replies).1.document s.url = .ok (.arr rows) ∧ Serves R params rows

/-- An operation is served when the answer to its one request is permitted. -/
lemma Served.of_asked {α : Type} {x : World.Run α} {w : World}
    (asked : (x w).2.web.log = w.web.log ++ [s.request params])
    (answer : (Web.nextReply w.web.replies).1.document s.url = .ok (.arr rows))
    (serves : Serves R params rows) : Served s R x w := by
  intro params' asked'
  have same := List.append_cancel_left (asked.symm.trans asked')
  cases congrArg Web.Request.params (List.cons.inj same).1
  exact ⟨rows, answer, serves⟩

/-- The attribute that a field is pushed down for is the value that its parameter asks for. -/
lemma Names.attr (h : Names row p) {field param : Text} (known : (field, param) ∈ pushedFields) :
    ∃ path, Keyed.get? param paramPaths = some path ∧
      p.attr field = .ofJson ((row.at? path).getD .null) := by
  obtain ⟨location, located, ipType, country⟩ := h.location
  simp only [pushedFields, List.mem_cons, List.not_mem_nil, or_false, Prod.mk.injEq] at known
  rcases known with ⟨rfl, rfl⟩ | ⟨rfl, rfl⟩ | ⟨rfl, rfl⟩
  · refine ⟨_, rfl, ?_⟩
    show Value.ofJson p.country = _
    simp [Json.at?, located, country]
  · refine ⟨_, rfl, ?_⟩
    show Value.ofJson (.str p.identity) = _
    simp [Json.at?, h.identity]
  · refine ⟨_, rfl, ?_⟩
    show Value.ofJson (.str p.ipType.name) = _
    simp [Json.at?, located, ipType]

/-- The text of a value that may be missing is that of the value or of null. -/
lemma bind_string? {o : Option Json} {t : Text} :
    o.bind Json.string? = some t ↔ o.getD .null = .str t := by
  rcases o with _ | j
  · simp
  · cases j <;> simp [Json.string?]

/-- A row meets a parameter exactly when its provider satisfies the condition. -/
lemma Names.meets_iff (h : Names row p) {field param t : Text}
    (known : (field, param) ∈ pushedFields) :
    meets row (param, t) = true ↔ (p.attr field).same (.str t) = true := by
  obtain ⟨path, found, attr⟩ := h.attr known
  rw [attr, Value.same_str, ← bind_string?]
  unfold meets
  rw [found]
  exact beq_iff_eq

/-! ## Conditions that are pushed down -/

/-- The conditions of a filter that become parameters. -/
def pushed (f : Filter) : List Condition := pushedFields.filterMap fun field => f.condition? field.1

/-- Whether the conditions of a filter on the fields that are pushed down compare with texts. -/
def Textual (f : Filter) : Prop :=
  ∀ c ∈ f.conditions, c.field ∈ pushedFields.map Prod.fst → ∃ t, c.operand = .json (.str t)

/-- A condition is pushed down when it is the only one on a field that can be. -/
lemma mem_pushed {c : Condition} : c ∈ pushed f ↔
    ∃ field param, (field, param) ∈ pushedFields ∧ f.condition? field = some c := by
  simp [pushed]

/-- The parameters of a request are those of every request and one for each condition that is pushed
down. -/
lemma mem_paramsOf {param : Text × Text} : param ∈ paramsOf f ↔ param ∈ baseParams ∨
    ∃ field name c, (field, name) ∈ pushedFields ∧ f.condition? field = some c ∧
      (name, c.operand.asJson.text) = param := by
  simp only [paramsOf, List.mem_append, List.mem_filterMap, Prod.exists, Option.map_eq_some_iff]
  refine or_congr_right ⟨?_, ?_⟩
  · rintro ⟨field, name, known, c, found, eq⟩
    exact ⟨field, name, c, known, found, eq⟩
  · rintro ⟨field, name, c, known, found, eq⟩
    exact ⟨field, name, known, c, found, eq⟩

/-- A condition that is pushed down compares its field with a text. -/
lemma Textual.of_condition? (texts : Textual f) {field param : Text} {c : Condition}
    (known : (field, param) ∈ pushedFields) (found : f.condition? field = some c) :
    ∃ t, c = ⟨field, .json (.str t)⟩ := by
  obtain ⟨mem, rfl⟩ := Discovery.condition?_mem found
  obtain ⟨t, operand⟩ := texts c mem (List.mem_map_of_mem known)
  exact ⟨t, by rw [← operand]⟩

/-- Texts can always be written as parameters. -/
lemma Textual.hasParams (texts : Textual f) : hasParams f = true := by
  refine List.all_eq_true.mpr fun ⟨field, param⟩ known => ?_
  dsimp only
  cases found : f.condition? field with
  | none => rfl
  | some c =>
    obtain ⟨t, rfl⟩ := texts.of_condition? known found
    rfl

/-- A row meets the parameters of a filter exactly when its provider satisfies the conditions that
became parameters. -/
lemma Names.meets_paramsOf (h : Names row p) (texts : Textual f) :
    (paramsOf f).all (meets row) = (pushed f).all fun c => Listing.satisfies Provider.attr c p := by
  rw [Bool.eq_iff_iff, List.all_eq_true, List.all_eq_true]
  constructor
  · intro all c mem
    obtain ⟨field, param, known, found⟩ := mem_pushed.mp mem
    obtain ⟨t, rfl⟩ := texts.of_condition? known found
    exact (h.meets_iff known).mp
      (all _ (mem_paramsOf.mpr (.inr ⟨field, param, _, known, found, rfl⟩)))
  · intro all param mem
    rcases mem_paramsOf.mp mem with base | ⟨field, name, c, known, found, rfl⟩
    · cases List.mem_singleton.mp base
      rfl
    · obtain ⟨t, rfl⟩ := texts.of_condition? known found
      exact (h.meets_iff known).mpr (all _ (mem_pushed.mpr ⟨field, name, known, found⟩))

/-- The providers that satisfy the conditions that became parameters are the same, whichever of the
permitted answers is given. -/
lemma Serves.filter_providersOf (h : Serves R (paramsOf f) rows) (texts : Textual f) :
    (providersOf now rows).filter (fun p => (pushed f).all fun c =>
        Listing.satisfies Provider.attr c p) =
      (providersOf now R).filter fun p => (pushed f).all fun c =>
        Listing.satisfies Provider.attr c p := by
  have moved : ∀ rows : List Json, (providersOf now rows).filter (fun p => (pushed f).all fun c =>
      Listing.satisfies Provider.attr c p) =
        providersOf now (rows.filter fun row => (paramsOf f).all (meets row)) := by
    intro rows
    unfold providersOf
    rw [List.filter_filterMap, List.filterMap_filter]
    refine List.filterMap_congr fun row _ => ?_
    cases read : readProposal now row with
    | error e => simp [Except.toOption]
    | ok p => simp [Except.toOption, (names_of_read read).meets_paramsOf texts, Option.filter]
  rw [moved, moved, h.filter_eq]

end Catalogue

end ProxyFleet
