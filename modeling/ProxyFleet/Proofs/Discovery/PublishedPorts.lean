import ProxyFleet.Proofs.Creation.Ports
import ProxyFleet.Proofs.Discovery.Conditions
import ProxyFleet.Proofs.Text.Digits

/-!
# The port of a relay, as discovery and allocation read it

The label that holds the published port of a relay is read twice: when the relay is discovered, and
when a port for another relay is allocated. Allocation ignores a label that is no number. Discovery
ignores one that does not consist of digits, but fails on digits that are no number.
-/

namespace ProxyFleet.Discovery
open Docker Creation

variable {s : Settings} {c : Container} {addresses : List (Text × Json)} {labels : Json}
  {key v : Text} {n : Int}

/-- Whether a text is a row of what passes for digits. -/
def DigitRow (v : Text) : Prop := v ≠ [] ∧ ∀ d ∈ v, Text.isDigitLike d = true

/-- A text member is what looking for it gives. -/
lemma lookup_of_member? (h : labels.member? key = some (.str v)) :
    labels.lookup key = .ok (.str v) ∧ ∀ j, labels.lookupOr key j = .ok (.str v) := by
  cases labels with
  | obj ms =>
    have found : Keyed.get? key ms = some (.str v) := h
    exact ⟨by rw [Json.lookup, found]; rfl, fun j => by rw [Json.lookupOr, found]; rfl⟩
  | _ => cases h

/-- Allocation takes a label for the number that it writes, if it writes one. -/
lemma usedPorts_singleton (held : c.labels.member? key = some (.str v)) :
    usedPorts key [c] = .ok (Text.readInt? v).toList := by
  simp only [usedPorts, (lookup_of_member? held).2, readPort, ok_bind]
  exact congrArg Except.ok (List.append_nil _)

/-- Discovery takes a row of digits for the number that it writes. -/
lemma publishedPort_of_row (held : labels.member? s.portKey = some (.str v)) (row : DigitRow v) :
    publishedPort s labels =
      match Text.readInt? v with
      | some n => .ok (some n)
      | none => .error .badNumeral := by
  have shown : (Json.str v).isBlank = false := by simpa [Json.isBlank] using row.1
  unfold publishedPort
  simp only [(lookup_of_member? held).1, ok_bind, shown, Json.asText,
    List.all_eq_true.mpr row.2, if_true]
  rfl

/-- A label that is no row of digits publishes no port. -/
lemma publishedPort_of_not_row (held : labels.member? s.portKey = some (.str v))
    (other : ¬ DigitRow v) : publishedPort s labels = .ok none := by
  unfold publishedPort
  simp only [(lookup_of_member? held).1, ok_bind, Json.asText]
  by_cases blank : (Json.str v).isBlank = true
  · rw [if_pos blank]
    rfl
  · have some : v ≠ [] := by simpa [Json.isBlank] using blank
    have mixed : v.all Text.isDigitLike ≠ true := fun all =>
      other ⟨some, List.all_eq_true.mp all⟩
    rw [if_neg blank, if_neg mixed]
    rfl

/-- The runner of a relay follows from its port and its volumes. -/
lemma runnerOf?_relay (addresses : List (Text × Json))
    (relay : c.labels.member? (s.key "project") = some (.str Service.relay.name)) :
    ∃ runner : Option Int → List Volume → Runner,
      (∀ port volumes, (runner port volumes).socketPort = port) ∧
      runnerOf? s addresses c = do
        let port ← publishedPort s c.labels
        let volumes ← c.mounts.mapM (volumeOf s)
        return some (runner port volumes) := by
  obtain ⟨project, -⟩ := lookup_of_member? relay
  obtain ⟨ms, labels⟩ : ∃ ms, c.labels = .obj ms := by
    cases eq : c.labels with
    | obj ms => exact ⟨ms, rfl⟩
    | _ => rw [eq] at relay; cases relay
  refine ⟨fun port volumes =>
    { service := .relay
      id := (Keyed.get? (s.key "id") ms).getD .null
      serial := c.id
      name := some c.name
      socketType := .tcp
      socketUri := socketUri s addresses c
      socketPort := port
      volumes
      status := .ofDockerState c.status
      label := .ofFlat s.docker.keyPrefix ms
      insertDate := c.created }, fun _ _ => rfl, ?_⟩
  unfold runnerOf?
  rw [labels] at project ⊢
  simp only [project, ok_bind, Service.ofJson?_name, socketOf, Json.members]
  cases publishedPort s (.obj ms) <;> rfl

/-- Mounts are never refused for a numeral. -/
lemma volumeOf_failsWith (mount : Json × Json) :
    FailsWith (· ≠ Failure.badNumeral) (volumeOf s mount) := by
  refine FailsWith.bind ?_ fun _ => .pure _
  cases mount.2 with
  | str dest => exact .ok dest
  | _ => exact .error nofun

/-- What discovery and allocation make of the label that holds the published port of a relay. The
label makes discovery fail exactly when it is a row of digits that allocation does not count, and
otherwise discovery reports the number that allocation counts if the label is a row of digits, and
none if it is not. Of the rows of digits allocation counts those of decimal digits that are not too
long. -/
theorem published_port_read (s : Settings) (addresses : List (Text × Json)) {c : Container}
    {v : Text} (relay : c.labels.member? (s.key "project") = some (.str Service.relay.name))
    (held : c.labels.member? s.portKey = some (.str v)) :
    ∃ counted : Option Int, usedPorts s.portKey [c] = .ok counted.toList ∧
      (runnerOf? s addresses c = .error .badNumeral ↔ DigitRow v ∧ counted = none) ∧
      (¬ (DigitRow v ∧ counted = none) →
        (∀ mount ∈ c.mounts, ∃ volume, volumeOf s mount = .ok volume) →
        ∃ r, runnerOf? s addresses c = .ok (some r) ∧
          ∀ n, r.socketPort = some n ↔ DigitRow v ∧ counted = some n) ∧
      (DigitRow v → ∀ n, counted = some n ↔
        ∃ k : Nat, n = k ∧ Text.Writes v k ∧ v.length ≤ Text.maxDigits) := by
  obtain ⟨runner, port, found⟩ := runnerOf?_relay addresses relay
  -- once the port has been read, only the mounts can make discovery fail
  have served : ∀ {port}, publishedPort s c.labels = .ok port →
      runnerOf? s addresses c ≠ .error .badNumeral := by
    intro port published failed
    rw [found, published, ok_bind] at failed
    have volumes : FailsWith (· ≠ Failure.badNumeral) (c.mounts.mapM (volumeOf s)) :=
      FailsWith.mapM fun mount _ => volumeOf_failsWith mount
    exact (volumes.bind fun _ => .pure _) _ failed rfl
  refine ⟨Text.readInt? v, usedPorts_singleton held, ?_, fun readable volumes => ?_,
    fun row n => Text.readInt?_eq_some_of_isDigitLike row.2⟩
  · by_cases row : DigitRow v
    · have published := publishedPort_of_row held row
      rcases read : Text.readInt? v with _ | n
      · rw [read] at published
        rw [found, published]
        exact ⟨fun _ => ⟨row, rfl⟩, fun _ => rfl⟩
      · rw [read] at published
        exact ⟨fun failed => absurd failed (served published), fun h => nomatch h.2⟩
    · exact ⟨fun failed => absurd failed (served (publishedPort_of_not_row held row)),
        fun h => absurd h.1 row⟩
  · obtain ⟨vs, mounted, -⟩ := exists_mapM volumes
    by_cases row : DigitRow v
    · have published := publishedPort_of_row held row
      rcases read : Text.readInt? v with _ | n
      · exact absurd ⟨row, read⟩ readable
      · rw [read] at published
        refine ⟨runner (some n) vs, ?_, fun m => ?_⟩
        · rw [found, published, ok_bind, mounted]
          rfl
        · rw [port]
          exact (and_iff_right row).symm
    · refine ⟨runner none vs, ?_, fun m => ?_⟩
      · rw [found, publishedPort_of_not_row held row, ok_bind, mounted]
        rfl
      · rw [port]
        exact ⟨nofun, fun h => absurd h.1 row⟩

namespace Sample

/-- A relay of the sample fleet whose label for the published port has the given value. -/
def relayOf (port : Text) : Container where
  id := .str "6a"
  name := "socat-1"
  status := "running"
  labels := .obj
    [("com.mysterium-proxy.project", .str "relay"),
     ("com.mysterium-proxy.publish-port", .str port)]
  networks := []
  networkMode := .null
  mounts := []
  created := none
  exitCode := .null
  started := none
  finished := none

/-- The number 3128 in the digits of another script. -/
def otherDigits : Text := "\u0663\u0661\u0662\u0668"

/-- What docker shows of two relays, the first of which has a superscript for its port. -/
def superscriptDocument : String :=
  "[\x7b\"Id\":\"6a\",\"Name\":\"/socat-1\",\"Config\":\x7b\"Labels\":" ++
    "\x7b\"com.mysterium-proxy.project\":\"relay\"," ++
    "\"com.mysterium-proxy.publish-port\":\"\u00b2\"\x7d\x7d\x7d," ++
    "\x7b\"Id\":\"6b\",\"Name\":\"/socat-2\",\"Config\":\x7b\"Labels\":" ++
    "\x7b\"com.mysterium-proxy.project\":\"relay\"\x7d\x7d\x7d]"

/-- A session in which docker lists these relays. -/
def superscriptSession : Session where
  binary := "docker"
  answers :=
    [("ps", [⟨"6a\n6b\n".toUTF8, .empty, 0⟩]),
     ("inspect", [⟨superscriptDocument.toUTF8, .empty, 0⟩])]
  log := []
  issued := 0

/-- Whether a listing has failed on a number that cannot be read. -/
def unreadable : Except Failure (Listing Runner) → Bool
  | .error (.repository .badNumeral false none) => true
  | _ => false

/-- A listing that cannot be read fails as a malformed numeral does. -/
lemma eq_of_unreadable {listed : Except Failure (Listing Runner)} (h : unreadable listed = true) :
    listed = .error (.repository .badNumeral false none) := by
  unfold unreadable at h
  split at h
  case h_1 => rfl
  case h_2 => cases h

end Sample

/-- A port that is written in the digits of another script is counted and discovered. -/
theorem other_digits_read :
    (Sample.relayOf Sample.otherDigits).labels.member? (Sample.settings.key "project") =
        some (.str Service.relay.name) ∧
      (Sample.relayOf Sample.otherDigits).labels.member? Sample.settings.portKey =
        some (.str Sample.otherDigits) ∧
      usedPorts Sample.settings.portKey [Sample.relayOf Sample.otherDigits] = .ok [3128] ∧
      ∃ r, runnerOf? Sample.settings [] (Sample.relayOf Sample.otherDigits) =
        .ok (some r) ∧ r.socketPort = some 3128 := by
  have relay : (Sample.relayOf Sample.otherDigits).labels.member?
      (Sample.settings.key "project") = some (.str Service.relay.name) := rfl
  have held : (Sample.relayOf Sample.otherDigits).labels.member?
      Sample.settings.portKey = some (.str Sample.otherDigits) := rfl
  have counts : usedPorts Sample.settings.portKey [Sample.relayOf Sample.otherDigits] =
      .ok [3128] := rfl
  have row : DigitRow Sample.otherDigits := ⟨by decide, by decide⟩
  obtain ⟨counted, used, -, reads, -⟩ := published_port_read Sample.settings [] relay held
  have number : counted = some 3128 := by
    have same : counted.toList = [3128] := Except.ok.inj (used.symm.trans counts)
    cases counted with
    | none => cases same
    | some n => exact congrArg some (List.head_eq_of_cons_eq same)
  obtain ⟨r, found, port⟩ := reads (by simp [number]) nofun
  exact ⟨relay, held, counts, r, found, (port 3128).mpr ⟨row, number⟩⟩

/-- Digits that are no number are ignored by allocation, but make discovery fail, with all the other
relays that are listed. -/
theorem superscript_port_fails :
    usedPorts Sample.settings.portKey [Sample.relayOf "\u00b2"] = .ok [] ∧
      runnerOf? Sample.settings [] (Sample.relayOf "\u00b2") = .error .badNumeral ∧
      (getAll Sample.settings .default Sample.superscriptSession).1 =
        .error (.repository .badNumeral false none) := by
  refine ⟨rfl, rfl, ?_⟩
  have ran : Sample.unreadable (getAll Sample.settings .default Sample.superscriptSession).1 =
      true := by decide +kernel
  exact Sample.eq_of_unreadable ran

end ProxyFleet.Discovery
