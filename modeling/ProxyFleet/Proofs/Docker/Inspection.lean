import Mathlib.Tactic.Common
import ProxyFleet.Docker.Container
import ProxyFleet.Docker.Spec
import ProxyFleet.Proofs.Label.Writing

/-!
# What docker shows of a container

Docker keeps the options that a container is created with and shows them when the running container
is inspected. The options are read off the arguments of the create command alone, so that what is
shown can be compared with the specification that the arguments were made from.
-/

namespace ProxyFleet.Docker

/-- The options of the create command that a specification is rendered with. Each takes a value. -/
def valueOptions : List Text :=
  ["--name", "--label", "--env", "--network", "--ip", "-v", "-p", "--restart", "--cap-add",
   "--device", "--log-driver", "--log-opt"]

/-- The options at the front of the arguments of a command, up to the image. -/
def readOptions : List Text → List (Text × Text)
  | option :: value :: rest =>
    if option ∈ valueOptions then (option, value) :: readOptions rest else []
  | _ => []

/-- The value of an option. -/
def optionValue? (name : Text) (options : List (Text × Text)) : Option Text :=
  Keyed.get? name options

/-- A label as docker keeps it: the key goes up to the first equals sign. -/
def readLabel (s : Text) : Text × Text :=
  let (key, rest) := Text.breakAt '=' s
  (key, rest.drop 1)

/-- The labels among options, one after another. -/
def labelPairs (options : List (Text × Text)) : List (Text × Text) :=
  (options.filter fun q => q.1 == ("--label" : Text)).map fun q => readLabel q.2

/-- The labels that docker keeps of options. -/
def optionLabels (options : List (Text × Text)) : List (Text × Text) :=
  Keyed.ofList (labelPairs options)

/-- Whether a network mode takes the network of another container. -/
def sharesNetwork (mode : Text) : Bool := (Text.after? "container:" mode).isSome

/-- The networks that options attach a container to, with its address. -/
def optionNetworks (options : List (Text × Text)) : List (Text × Text) :=
  match optionValue? "--network" options with
  | some mode => if sharesNetwork mode then [] else [(mode, (optionValue? "--ip" options).getD "")]
  | none => []

/-- What docker shows of a running container that was created with options. -/
def runningDocument (id : Json) (options : List (Text × Text)) : Json :=
  .obj
    [("Id", id),
     ("Name", .str ("/" ++ (optionValue? "--name" options).getD "")),
     ("State", .obj [("Status", .str "running")]),
     ("Config", .obj [("Labels", .obj (shownLabels (optionLabels options)))]),
     ("HostConfig", .obj
       [("NetworkMode", .str ((optionValue? "--network" options).getD "default"))]),
     ("NetworkSettings", .obj
       [("Networks", .obj ((optionNetworks options).map fun q =>
         (q.1, .obj [("IPAddress", .str q.2)])))])]

/-- The options attach a container to one network at most. -/
lemma optionNetworks_cases (options : List (Text × Text)) :
    optionNetworks options = [] ∨ ∃ q, optionNetworks options = [q] := by
  unfold optionNetworks
  split
  · split
    · exact .inl rfl
    · exact .inr ⟨_, rfl⟩
  · exact .inl rfl

/-- The container that is read from what docker shows. -/
lemma ofJson_runningDocument (id : Json) (options : List (Text × Text)) :
    Container.ofJson (runningDocument id options) = .ok
      { id
        name := Text.stripStart '/' ("/" ++ (optionValue? "--name" options).getD "")
        status := "running"
        labels := .obj (shownLabels (optionLabels options))
        networks := shownLabels (optionNetworks options)
        networkMode := .str ((optionValue? "--network" options).getD "default")
        mounts := []
        created := none
        exitCode := .null
        started := none
        finished := none } := by
  unfold runningDocument
  rcases optionNetworks_cases options with networks | ⟨q, networks⟩ <;> rw [networks] <;>
    cases optionLabels options <;> rfl

/-! ## Options of a specification -/

variable {name flag : Text} {values : List Text} {pairs : List (Text × Text)}

/-- An option with each of several values. -/
def given (flag : Text) (values : List Text) : List (Text × Text) := values.map fun v => (flag, v)

/-- The value of an option that may be left out, none for an empty one. -/
def present : Option Text → List Text
  | some v => if v.isEmpty then [] else [v]
  | none => []

/-- The options that a specification is rendered as. -/
def Spec.options (s : Spec) : List (Text × Text) :=
  given "--name" [s.name] ++
  given "--label" (s.labels.map assignment) ++
  given "--env" (s.env.map assignment) ++
  given "--network" (present s.network) ++
  given "--ip" (present s.address) ++
  given "-v" s.binds ++
  given "-p" (s.ports.map published) ++
  given "--restart" (present s.restart) ++
  given "--cap-add" s.capabilities ++
  given "--device" s.devices ++
  given "--log-driver" (if s.logOptions.isEmpty then [] else ["json-file"]) ++
  given "--log-opt" (s.logOptions.map assignment)

/-- Options as they stand among arguments, each name before its value. -/
def render (pairs : List (Text × Text)) : List Text := pairs.flatMap fun q => [q.1, q.2]

/-- Options are rendered one after another. -/
lemma render_append (xs ys : List (Text × Text)) : render (xs ++ ys) = render xs ++ render ys :=
  List.flatMap_append

/-- Options are read from their arguments. -/
lemma readOptions_render (known : ∀ q ∈ pairs, q.1 ∈ valueOptions) (rest : List Text) :
    readOptions (render pairs ++ rest) = pairs ++ readOptions rest := by
  induction pairs with
  | nil => rfl
  | cons q pairs ih =>
    have first := known q List.mem_cons_self
    have ih := ih fun q' mem => known q' (List.mem_cons_of_mem _ mem)
    simp only [render, List.flatMap_cons, List.cons_append, List.nil_append] at ih ⊢
    rw [readOptions, if_pos first, ih]

/-- A repeated option is written as a flag before each value. -/
lemma render_given : render (given flag values) = flagged flag values := by
  simp [render, given, flagged, List.flatMap_map]

/-- The value of an option that may be left out is written if it is there. -/
lemma flagged_present (value : Option Text) :
    flagged flag (present value) = optional flag value := by
  rcases value with _ | v
  · rfl
  · by_cases h : v.isEmpty
    · simp only [present, optional, if_pos h]
      rfl
    · simp only [present, optional, if_neg h]
      rfl

/-- The log options are written behind the log driver, and neither without the other. -/
lemma render_log (logOptions : List (Text × Text)) :
    render (given "--log-driver" (if logOptions.isEmpty then [] else ["json-file"]) ++
      given "--log-opt" (logOptions.map assignment)) = Spec.logArgs logOptions := by
  rw [render_append, render_given, render_given]
  cases logOptions <;> rfl

/-- The arguments of a specification are its options, its image and its command. -/
lemma Spec.toArgs_eq (s : Spec) :
    s.toArgs = ("create" : Text) :: (render s.options ++ s.image :: s.command) := by
  unfold Spec.options
  -- the log options are rendered together, as they are left out together
  rw [List.append_assoc _ (given "--log-driver" _), render_append, render_log]
  simp only [render_append, render_given, flagged_present]
  simp [Spec.toArgs]

/-- Every option of a specification takes a value. -/
lemma Spec.options_known (s : Spec) : ∀ q ∈ s.options, q.1 ∈ valueOptions := by
  have known : ∀ flag values, flag ∈ valueOptions →
      ∀ q ∈ given flag values, q.1 ∈ valueOptions := by
    intro flag values known q mem
    obtain ⟨v, -, rfl⟩ := List.mem_map.mp mem
    exact known
  unfold Spec.options
  simp only [List.mem_append, or_imp, forall_and]
  refine ⟨⟨⟨⟨⟨⟨⟨⟨⟨⟨⟨?_, ?_⟩, ?_⟩, ?_⟩, ?_⟩, ?_⟩, ?_⟩, ?_⟩, ?_⟩, ?_⟩, ?_⟩, ?_⟩ <;>
    exact known _ _ (by decide)

/-- The first value counts of an option that is given several. -/
lemma get?_given :
    Keyed.get? name (given flag values) = if flag = name then values.head? else none := by
  induction values with
  | nil => simp [given, Keyed.get?]
  | cons v values ih =>
    by_cases h : flag = name
    · simp [given, Keyed.get?, h]
    · simp only [given] at ih
      simp [given, Keyed.get?, h, ih]

/-- The options of a specification are read from its arguments, and after them whatever the image
and the command may be taken for. -/
lemma Spec.readOptions_toArgs (s : Spec) :
    readOptions (s.toArgs.drop 1) = s.options ++ readOptions (s.image :: s.command) := by
  rw [s.toArgs_eq]
  exact readOptions_render s.options_known _

section

variable (s : Spec) (more : List (Text × Text))

/-- The name is found among the options, whatever follows them. -/
lemma Spec.optionValue?_name : optionValue? "--name" (s.options ++ more) = some s.name := by
  unfold Spec.options optionValue?
  simp only [Keyed.get?_append, get?_given]
  simp

/-- The network is found among the options if there is one. -/
lemma Spec.optionValue?_network {network : Text} (h : present s.network = [network]) :
    optionValue? "--network" (s.options ++ more) = some network := by
  unfold Spec.options optionValue?
  simp only [Keyed.get?_append, get?_given, h]
  rfl

/-- The address is found among the options if there is one. -/
lemma Spec.optionValue?_address {address : Text} (h : present s.address = [address]) :
    optionValue? "--ip" (s.options ++ more) = some address := by
  unfold Spec.options optionValue?
  simp only [Keyed.get?_append, get?_given, h]
  rfl

/-- The published port is found among the options if there is just one. -/
lemma Spec.optionValue?_port {p : Int × Int} (h : s.ports = [p]) :
    optionValue? "-p" (s.options ++ more) = some (published p) := by
  unfold Spec.options optionValue?
  simp only [Keyed.get?_append, get?_given, h]
  rfl

/-- The labels of options are read one after another. -/
lemma labelPairs_append (xs ys : List (Text × Text)) :
    labelPairs (xs ++ ys) = labelPairs xs ++ labelPairs ys := by
  simp [labelPairs]

/-- No labels are read from another option. -/
lemma labelPairs_given :
    labelPairs (given flag values) = if flag = "--label" then values.map readLabel else [] := by
  unfold labelPairs given
  by_cases h : flag = "--label"
  · simp [h, List.filter_map, Function.comp_def]
  · simp [h, List.filter_map, Function.comp_def]

/-- A label whose key has no equals sign is read back. -/
lemma readLabel_assignment {q : Text × Text} (h : .char '=' ∉ q.1) :
    readLabel (assignment q) = q := by
  have broken : Text.breakAt '=' (q.1 ++ (("=" : Text) ++ q.2)) = (q.1, .char '=' :: q.2) :=
    Text.breakAt_append h
  unfold readLabel assignment
  rw [List.append_assoc, broken]
  rfl

/-- The labels of a specification are read back from its options. -/
lemma Spec.labelPairs_options (plain : ∀ q ∈ s.labels, .char '=' ∉ q.1) :
    labelPairs s.options = s.labels := by
  have kept : s.labels.map (fun q => readLabel (assignment q)) = s.labels :=
    (List.map_congr_left fun q mem => readLabel_assignment (plain q mem)).trans (List.map_id _)
  unfold Spec.options
  simp only [labelPairs_append, labelPairs_given]
  simpa +decide [Function.comp_def] using kept

/-- A label has the value that the specification gives it. -/
lemma Spec.get?_optionLabels (plain : ∀ q ∈ s.labels, .char '=' ∉ q.1)
    (nodup : (Keyed.keys s.labels).Nodup) {key : Text}
    (unseen : key ∉ Keyed.keys (labelPairs more)) :
    Keyed.get? key (optionLabels (s.options ++ more)) = Keyed.get? key s.labels := by
  -- a later label would replace an earlier one, but none has this key
  have missing : Keyed.get? key (labelPairs more).reverse = none := by
    apply Keyed.get?_eq_none.mpr
    intro mem
    apply unseen
    simpa [Keyed.keys] using mem
  rw [optionLabels, Keyed.get?_ofList, labelPairs_append, s.labelPairs_options plain,
    List.reverse_append, Keyed.get?_append, missing, Keyed.get?_reverse nodup]
  rfl

end

end ProxyFleet.Docker
