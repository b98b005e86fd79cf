import ProxyFleet.Docker.Command
import ProxyFleet.Proofs.Docker.Log
import ProxyFleet.Proofs.Text.Splitting

/-!
# The filters of a listing

The filters that docker is given are read back from the arguments of a listing alone, so that what
is listed can be compared with the labels of a container.
-/

namespace ProxyFleet.Docker

/-! ## Label filters -/

/-- What docker takes a label filter for: a key that has to be there, or the value that it has to
have. -/
inductive LabelFilter where
  | present (key : Text)
  | equals (key value : Text)
  deriving DecidableEq, Repr

namespace LabelFilter

/-- The text that a filter is given as. -/
def text : LabelFilter → Text
  | present key => key
  | equals key value => assignment (key, value)

/-- The key of the label that a filter is for. -/
def key : LabelFilter → Text
  | present key => key
  | equals key _ => key

/-- The filter that docker reads from a text: the key goes up to the first equals sign. -/
def ofText (s : Text) : LabelFilter :=
  match Text.breakAt '=' s with
  | (key, _ :: value) => equals key value
  | (key, []) => present key

/-- Whether labels pass a filter. -/
def Holds (labels : Json) : LabelFilter → Prop
  | present key => (labels.member? key).isSome
  | equals key value => labels.member? key = some (.str value)

/-- A filter is read from its text, if its key has no equals sign. -/
lemma ofText_text {x : LabelFilter} (plain : .char '=' ∉ x.key) : ofText x.text = x := by
  unfold ofText
  cases x with
  | present key =>
    have whole : Text.breakAt '=' key = (key, []) := Text.breakAt_of_not_mem plain
    rw [text, whole]
  | equals key value =>
    have broken : Text.breakAt '=' (key ++ (("=" : Text) ++ value)) = (key, .char '=' :: value) :=
      Text.breakAt_append plain
    rw [text, assignment, List.append_assoc, broken]

end LabelFilter

/-! ## Filters among arguments -/

variable {key : Text} {args name : List Text} {q : Query}

/-- The filters among the arguments of a listing. -/
def readFilters : List Text → List Text
  | option :: filter :: rest =>
    if option = "--filter" then filter :: readFilters rest else readFilters (filter :: rest)
  | _ => []

/-- The values that a listing is filtered by under one key. -/
def filtersOf (key : Text) (args : List Text) : List Text :=
  (readFilters args).filterMap (Text.after? (key ++ "="))

/-- The filters of a call for labels. -/
abbrev labelFilters (args : List Text) : List Text := filtersOf "label" args

/-- The filters of a call for states. -/
abbrev statusFilters (args : List Text) : List Text := filtersOf "status" args

/-- Flagged filters are the filters. -/
lemma readFilters_flagged (filters : List Text) :
    readFilters (flagged "--filter" filters) = filters := by
  induction filters with
  | nil => rfl
  | cons filter rest ih =>
    show readFilters ("--filter" :: filter :: flagged "--filter" rest) = _
    rw [readFilters, if_pos rfl, ih]

/-- Arguments before them that are no flag have no filters. -/
lemma readFilters_append {front : List Text} (other : ("--filter" : Text) ∉ front)
    (args : List Text) : readFilters (front ++ args) = readFilters args := by
  induction front with
  | nil => rfl
  | cons option rest ih =>
    obtain ⟨differs, other⟩ := not_or.mp (mt List.mem_cons.mpr other)
    rw [← ih other, List.cons_append]
    -- an option that comes last has no value and is no filter
    cases rest ++ args with
    | nil => rfl
    | cons filter rest => rw [readFilters, if_neg (Ne.symm differs)]

/-- The filters of a query are those for labels, states, the name and identifiers. -/
lemma readFilters_toArgs (h : q.toArgs = .ok args) (named : nameFilter q.name = .ok name) :
    readFilters args = assignments "label" q.labels ++ assignments "status" q.status ++ name ++
      assignments "id" q.ids := by
  obtain ⟨name', named', h⟩ := bind_eq_ok.mp h
  cases named.symm.trans named'
  cases h
  have front : ∀ stopped, ("--filter" : Text) ∉
      ("ps" : Text) :: "--quiet" :: "--no-trunc" :: switch "--all" stopped := by decide
  exact (readFilters_append (front q.stopped) _).trans (readFilters_flagged _)

/-! ## Keys of filters -/

/-- The value of an assignment stands behind its key. -/
lemma after?_assignment (key value : Text) :
    Text.after? (key ++ "=") (assignment (key, value)) = some value :=
  Text.after?_eq_some.mpr rfl

/-- The filters of one kind are the values that they assign. -/
lemma filtersOf_assignments (key : Text) (values : List Text) :
    (assignments key values).filterMap (Text.after? (key ++ "=")) = values := by
  induction values with
  | nil => rfl
  | cons value rest ih =>
    rw [assignments, List.map_cons, List.filterMap_cons, after?_assignment]
    exact congrArg (value :: ·) ih

/-- A filter whose first symbol is another one has another key. -/
lemma filterMap_after?_eq_nil {filters : List Text}
    (other : ∀ filter ∈ filters, filter.head? ≠ key.head?) (some : key ≠ []) :
    filters.filterMap (Text.after? (key ++ "=")) = [] := by
  obtain ⟨c, rest, rfl⟩ := List.exists_cons_of_ne_nil some
  refine List.filterMap_eq_nil_iff.mpr fun filter mem => Option.eq_none_iff_forall_ne_some.mpr ?_
  intro value found
  have whole := Text.after?_eq_some.mp found
  exact other filter mem (by rw [← whole]; rfl)

/-- An assignment begins as its key does. -/
lemma head?_of_mem_assignments {filter : Text} {values : List Text} (some : key ≠ [])
    (mem : filter ∈ assignments key values) : filter.head? = key.head? := by
  obtain ⟨c, rest, rfl⟩ := List.exists_cons_of_ne_nil some
  obtain ⟨value, -, rfl⟩ := List.mem_map.mp mem
  rfl

/-- A filter for the name begins as the word does. -/
lemma head?_of_mem_nameFilter {j : Json} {filters : List Text} {a : Text}
    (h : nameFilter j = .ok filters) (mem : a ∈ filters) : a.head? = some (.char 'n') := by
  unfold nameFilter at h
  split at h
  · cases h
    split at mem
    · cases mem
    · cases List.mem_singleton.mp mem
      rfl
  · split at h
    · cases h
      cases mem
    · cases h

/-- Labels and states are read back from the arguments of a listing. -/
lemma filters_toArgs (h : q.toArgs = .ok args) :
    labelFilters args = q.labels ∧ statusFilters args = q.status := by
  obtain ⟨name, named, -⟩ := bind_eq_ok.mp h
  have ofName : ∀ {key : Text}, key ≠ [] → key.head? ≠ some (.char 'n') →
      name.filterMap (Text.after? (key ++ "=")) = [] := fun some other =>
    filterMap_after?_eq_nil (fun _ mem => head?_of_mem_nameFilter named mem ▸ other.symm) some
  have ofOther : ∀ {key key' : Text} {values}, key ≠ [] → key' ≠ [] → key'.head? ≠ key.head? →
      (assignments key' values).filterMap (Text.after? (key ++ "=")) = [] := fun some some' other =>
    filterMap_after?_eq_nil (fun _ mem => head?_of_mem_assignments some' mem ▸ other) some
  unfold labelFilters statusFilters filtersOf
  rw [readFilters_toArgs h named]
  simp only [List.filterMap_append, filtersOf_assignments]
  constructor
  · rw [ofName (by decide) (by decide), ofOther (by decide) (by decide) (by decide),
      ofOther (by decide) (by decide) (by decide)]
    simp
  · rw [ofName (by decide) (by decide), ofOther (by decide) (by decide) (by decide),
      ofOther (by decide) (by decide) (by decide)]
    simp

/-! ## Listings in a log -/

/-- The arguments of a call that lists containers. -/
def listing? : Event → Option (List Text)
  | .call (_ :: args) _ => if args.head? = some ("ps" : Text) then some args else none
  | _ => none

/-- What is listed has been asked for. -/
lemma Event.Asks.of_listing? {binary : Text} {P : List Text → Prop} {e : Event}
    (asks : e.Asks binary P) (h : listing? e = some args) : P args ∧ Commands ["ps"] args := by
  cases e with
  | pause => exact asks.elim
  | call argv reply =>
    obtain ⟨_, rfl, asked⟩ := asks
    dsimp only [listing?] at h
    split at h
    case isTrue lists =>
      cases h
      exact ⟨asked, "ps", List.mem_singleton_self _, lists⟩
    case isFalse => cases h

end ProxyFleet.Docker
