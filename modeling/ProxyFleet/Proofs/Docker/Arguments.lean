import ProxyFleet.Proofs.Docker.Inspection

/-!
# Reading specifications back

The arguments that a container is created with determine its specification. Every option stands in
front of its value, so that values may look like options; the first argument that is no option and
no value is the image, and whatever follows is the command.
-/

namespace ProxyFleet.Docker

variable {s : Spec} {flag name : Text} {values : List Text} {pairs : List (Text × Text)}

/-! ## Published ports -/

/-- The number that decimal digits write, however many they are. -/
def readNatural? (s : Text) : Option Nat := (s.mapM Text.digitValue?).map Text.ofDigits

/-- The number that a numeral writes, however long it is. -/
def readNumeral? : Text → Option Int
  | .char '-' :: digits => (readNatural? digits).map fun k => -(k : Int)
  | digits => (readNatural? digits).map Int.ofNat

/-- The host port and the container port that are published as `host:container/tcp`. -/
def readPublished? (s : Text) : Option (Int × Int) := do
  let (host, rest) := Text.breakAt ':' s
  let (container, _) := Text.breakAt '/' (rest.drop 1)
  return (← readNumeral? host, ← readNumeral? container)

/-- A natural number is read from its decimal digits. -/
lemma readNatural?_toDigits (k : Nat) :
    readNatural? (Text.ofChars (Nat.toDigits 10 k)) = some k := by
  rw [readNatural?, Text.mapM_digitValue?_digits fun c => Text.isDigit_of_mem, Option.map_some,
    Text.ofDigits_toDigits]

/-- A whole number is read from its numeral. -/
lemma readNumeral?_numeral (n : Int) : readNumeral? (Text.numeral n) = some n := by
  cases n with
  | ofNat k =>
    have read := readNatural?_toDigits k
    rw [Text.numeral]
    rcases digits : Nat.toDigits 10 k with _ | ⟨c, rest⟩
    · exact absurd digits Nat.toDigits_ne_nil
    rw [digits, Text.ofChars, List.map_cons] at read
    have minus : c ≠ '-' := by
      rintro rfl
      have digit : ('-' : Char).isDigit := Text.isDigit_of_mem (k := k) (by rw [digits]; simp)
      exact absurd digit (by decide)
    rw [Text.ofChars, List.map_cons, readNumeral?, read]
    · rfl
    · simpa using minus
  | negSucc k =>
    have read := readNatural?_toDigits (k + 1)
    rw [Text.numeral, Text.ofChars, List.map_cons, readNumeral?]
    rw [Text.ofChars] at read
    rw [read]
    rfl

/-- A published port is read, whatever the numbers are. -/
lemma readPublished?_published (p : Int × Int) : readPublished? (published p) = some p := by
  have colon : .char ':' ∉ Text.numeral p.1 := Text.not_mem_numeral (by decide) (by decide)
  have slash : .char '/' ∉ Text.numeral p.2 := Text.not_mem_numeral (by decide) (by decide)
  have host : Text.breakAt ':' (published p) =
      (Text.numeral p.1, .char ':' :: (Text.numeral p.2 ++ .char '/' :: ("tcp" : Text))) := by
    rw [← Text.breakAt_append colon]
    simp [published]
    rfl
  unfold readPublished?
  rw [host]
  simp only [List.drop_succ_cons, List.drop_zero, Text.breakAt_append slash, readNumeral?_numeral]
  rfl

/-! ## Values of options -/

/-- The values of an option, in the order in which they are given. -/
def valuesOf (flag : Text) (options : List (Text × Text)) : List Text :=
  (options.filter fun q => q.1 == flag).map Prod.snd

/-- The values of options in a row are those of one after the other. -/
lemma valuesOf_append (xs ys : List (Text × Text)) :
    valuesOf flag (xs ++ ys) = valuesOf flag xs ++ valuesOf flag ys := by
  simp [valuesOf]

/-- An option that is given has its values, and no other option has. -/
lemma valuesOf_given :
    valuesOf flag (given name values) = if name = flag then values else [] := by
  unfold valuesOf given
  by_cases h : name = flag
  · simp [h, List.filter_map, Function.comp_def]
  · simp [h, List.filter_map, Function.comp_def]

/-- The options of a specification with all their values. -/
def Spec.groups (s : Spec) : List (Text × List Text) :=
  [("--name", [s.name]), ("--label", s.labels.map assignment), ("--env", s.env.map assignment),
   ("--network", present s.network), ("--ip", present s.address), ("-v", s.binds),
   ("-p", s.ports.map published), ("--restart", present s.restart), ("--cap-add", s.capabilities),
   ("--device", s.devices), ("--log-driver", if s.logOptions.isEmpty then [] else ["json-file"]),
   ("--log-opt", s.logOptions.map assignment)]

/-- The options of a specification are those of its groups. -/
lemma Spec.options_eq (s : Spec) : s.options = s.groups.flatMap fun g => given g.1 g.2 := by
  simp [options, groups]

/-- Of groups with different flags, a flag has the values of its own. -/
lemma valuesOf_flatMap {groups : List (Text × List Text)} (nodup : (Keyed.keys groups).Nodup) :
    valuesOf flag (groups.flatMap fun g => given g.1 g.2) = (Keyed.get? flag groups).getD [] := by
  induction groups with
  | nil => rfl
  | cons g rest ih =>
    obtain ⟨fresh, nodup⟩ := List.nodup_cons.mp nodup
    rw [List.flatMap_cons, valuesOf_append, valuesOf_given, ih nodup, Keyed.get?]
    by_cases same : g.1 = flag
    · rw [if_pos same, if_pos same, Keyed.get?_eq_none.mpr (same ▸ fresh)]
      simp
    · rw [if_neg same, if_neg same, List.nil_append]

/-- The values of an option of a specification. -/
lemma Spec.valuesOf_options (s : Spec) (h : Keyed.get? flag s.groups = some values) :
    valuesOf flag s.options = values := by
  have nodup : (Keyed.keys s.groups).Nodup := by
    show valueOptions.Nodup
    decide
  rw [s.options_eq, valuesOf_flatMap nodup, h, Option.getD_some]

/-- The specification that the arguments of a create command write. -/
def Spec.ofArgs? (args : List Text) : Option Spec := do
  let options := readOptions (args.drop 1)
  let name ← (valuesOf "--name" options).head?
  let ports ← (valuesOf "-p" options).mapM readPublished?
  match args.drop (1 + 2 * options.length) with
  | [] => none
  | image :: command =>
    return {
      image
      name
      command
      labels := (valuesOf "--label" options).map readLabel
      env := (valuesOf "--env" options).map readLabel
      network := (valuesOf "--network" options).head?
      address := (valuesOf "--ip" options).head?
      binds := valuesOf "-v" options
      ports
      restart := (valuesOf "--restart" options).head?
      capabilities := valuesOf "--cap-add" options
      devices := valuesOf "--device" options
      logOptions := (valuesOf "--log-opt" options).map readLabel }

/-- Whether the arguments of a specification say all that it says: no key has an equals sign, the
image does not look like an option, and what may be left out is not given as an empty text. -/
structure Spec.Renderable (s : Spec) : Prop where
  labels : ∀ q ∈ s.labels, .char '=' ∉ q.1
  env : ∀ q ∈ s.env, .char '=' ∉ q.1
  logOptions : ∀ q ∈ s.logOptions, .char '=' ∉ q.1
  image : s.image.head? ≠ some (.char '-')
  network : s.network ≠ some []
  address : s.address ≠ some []
  restart : s.restart ≠ some []

/-- Labels without an equals sign in their keys are read from their assignments. -/
lemma map_readLabel (plain : ∀ q ∈ pairs, .char '=' ∉ q.1) :
    (pairs.map assignment).map readLabel = pairs := by
  rw [List.map_map]
  exact (List.map_congr_left fun q mem => readLabel_assignment (plain q mem)).trans (List.map_id _)

/-- A value that is present is the first of what it gives. -/
lemma head?_present {value : Option Text} (given : value ≠ some []) :
    (present value).head? = value := by
  rcases value with _ | _ | ⟨c, v⟩
  · rfl
  · exact absurd rfl given
  · rfl

/-- Every option takes two arguments. -/
lemma length_render (pairs : List (Text × Text)) : (render pairs).length = 2 * pairs.length := by
  induction pairs with
  | nil => rfl
  | cons q rest ih =>
    rw [render] at ih
    simp only [render, List.flatMap_cons, List.length_append, ih, List.length_cons,
      List.length_nil]
    omega

/-- Behind the image nothing is taken for an option of docker. -/
lemma readOptions_image {image : Text} (plain : image.head? ≠ some (.char '-'))
    (command : List Text) : readOptions (image :: command) = [] := by
  have dashed : ∀ option ∈ valueOptions, option.head? = some (.char '-') := by decide
  have other : image ∉ valueOptions := fun mem => plain (dashed image mem)
  cases command with
  | nil => rfl
  | cons value rest => rw [readOptions, if_neg other]

/-- A specification is read back from its arguments. -/
lemma Spec.ofArgs?_toArgs (h : s.Renderable) : Spec.ofArgs? s.toArgs = some s := by
  have options : readOptions (s.toArgs.drop 1) = s.options := by
    rw [s.readOptions_toArgs, readOptions_image h.image, List.append_nil]
  have rest : s.toArgs.drop (1 + 2 * s.options.length) = s.image :: s.command := by
    rw [s.toArgs_eq, ← length_render, Nat.add_comm, List.drop_succ_cons, List.drop_left]
  have given : ∀ {flag values}, Keyed.get? flag s.groups = some values →
      valuesOf flag s.options = values := s.valuesOf_options
  have name : valuesOf "--name" s.options = [s.name] := given rfl
  have labels : valuesOf "--label" s.options = s.labels.map assignment := given rfl
  have env : valuesOf "--env" s.options = s.env.map assignment := given rfl
  have network : valuesOf "--network" s.options = present s.network := given rfl
  have address : valuesOf "--ip" s.options = present s.address := given rfl
  have binds : valuesOf "-v" s.options = s.binds := given rfl
  have ports : valuesOf "-p" s.options = s.ports.map published := given rfl
  have restart : valuesOf "--restart" s.options = present s.restart := given rfl
  have capabilities : valuesOf "--cap-add" s.options = s.capabilities := given rfl
  have devices : valuesOf "--device" s.options = s.devices := given rfl
  have logOptions : valuesOf "--log-opt" s.options = s.logOptions.map assignment := given rfl
  simp only [ofArgs?, options, rest, name, labels, env, network, address, binds, ports, restart,
    capabilities, devices, logOptions, map_readLabel h.labels, map_readLabel h.env,
    map_readLabel h.logOptions, head?_present h.network, head?_present h.address,
    head?_present h.restart, mapM_map_some fun p _ => readPublished?_published p]
  rfl

/-- The arguments of a specification are read as this specification, and no other one has the same
arguments. Values may be any texts, in particular such as look like options or like pairs. -/
theorem specification_read_back (h : s.Renderable) : Spec.ofArgs? s.toArgs = some s ∧
    ∀ t : Spec, t.Renderable → s.toArgs = t.toArgs → s = t := by
  refine ⟨Spec.ofArgs?_toArgs h, fun t h' same => ?_⟩
  have other := Spec.ofArgs?_toArgs h'
  rw [← same, Spec.ofArgs?_toArgs h] at other
  exact Option.some.inj other

namespace Sample

/-- A specification whose values look like options, images and pairs. -/
def awkwardSpec : Spec where
  image := "img:1"
  name := "--label"
  command := ["--env", "A=b", ""]
  labels := [("key", "=a=b"), ("", "-p")]
  env := [("A", "two\nlines"), ("B", "")]
  address := some "--ip"
  binds := ["img:1", "--restart"]
  ports := [(-1, 80), (8080, 0)]
  restart := none
  capabilities := [""]
  devices := ["--device"]
  logOptions := [("max-file", "2")]

end Sample

/-- That specification is read back, and it is the only one with its arguments. -/
theorem awkward_specification_read_back : Sample.awkwardSpec.Renderable ∧
    Spec.ofArgs? Sample.awkwardSpec.toArgs = some Sample.awkwardSpec ∧
    ∀ t : Spec, t.Renderable → Sample.awkwardSpec.toArgs = t.toArgs → Sample.awkwardSpec = t := by
  have renderable : Sample.awkwardSpec.Renderable := by
    constructor <;> decide
  exact ⟨renderable, specification_read_back renderable⟩

end ProxyFleet.Docker
