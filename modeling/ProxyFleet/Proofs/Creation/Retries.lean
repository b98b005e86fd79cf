import ProxyFleet.Proofs.Creation.History

/-!
# How often a creation is tried

The number of rounds is bounded, every round begins with its own query for stale containers, there
is one pause between a round and the next, and the rounds alone decide whether a further one follows
and how the creation ends.
-/

namespace ProxyFleet.Creation
open Docker

variable {s : Settings} {service : Service} {o : Order} {g : Groundwork} {failed : List Int}
  {r : Runner} {retries : Nat} {rounds : List Round} {result : Except Failure Runner}
  {σ σ' : Session}

/-- There is no pause in preparing an attempt. -/
lemma Preparation.no_pause {outcome : Except Failure Allocation} {events : List Event}
    (prep : Preparation s service o failed σ outcome events) : .pause ∉ events :=
  fun mem => prep.asks _ mem

/-- There is no pause within a round. -/
lemma Course.no_pause {t : Round} (course : Course s service o g failed σ t) :
    .pause ∉ t.events := by
  cases course with
  | unwritten => exact List.not_mem_nil
  | unprepared prep => exact prep.no_pause
  | refused prep | started prep | nameless prep | removed prep => simp [prep.no_pause]

/-- A round begins with its own query for stale containers, if the labels of their owners can be
written. -/
lemma Course.queried {t : Round} (course : Course s service o g failed σ t)
    (writable : o.Writable) :
    ∃ reply rest, t.events = .call (σ.binary :: staleArgs s service o) reply :: rest := by
  cases course with
  | unwritten spoilt => exact absurd writable spoilt
  | unprepared prep => exact prep.queried
  | refused prep | started prep | nameless prep | removed prep =>
    obtain ⟨reply, rest, rfl⟩ := prep.queried
    exact ⟨reply, rest ++ _, rfl⟩

namespace History

/-- There is one round more than there are retries, at most. -/
lemma length_le (h : History s service o g retries failed σ rounds result σ') :
    rounds.length ≤ retries + 1 := by
  induction h with
  | stop _ _ => simp
  | again _ _ _ ih => exact Nat.succ_le_succ ih

/-- A round is followed by another one exactly when it repeats and a retry is left. -/
lemma goes_on (h : History s service o g retries failed σ rounds result σ') (k : Nat)
    (hk : k < rounds.length) :
    k + 1 < rounds.length ↔ rounds[k].Repeats service o.fixedPort ∧ k < retries := by
  induction h generalizing k with
  | stop _ stop =>
    obtain rfl : k = 0 := by simpa using hk
    rcases stop with rfl | stop
    · simp
    · simp [stop]
  | again _ again rest ih =>
    cases k with
    | zero =>
      have more : 0 < _ := List.length_pos_iff.mpr rest.ne_nil
      simp [again, more]
    | succ k =>
      have hk' : k < _ := Nat.lt_of_succ_lt_succ hk
      simpa using ih k hk'

/-- A creation ends as its last round does. -/
lemma result_eq (h : History s service o g retries failed σ rounds result σ') {t : Round}
    (last : rounds.getLast? = some t) : result = t.verdict service := by
  induction h with
  | stop _ _ =>
    cases last
    rfl
  | again _ _ rest ih =>
    rw [List.getLast?_cons_of_ne_nil rest.ne_nil] at last
    exact ih last

end History

namespace Sample

/-- The settings of a fleet to which nothing is given. -/
def settings : Settings where
  docker := .default
  identity := .default
  connector := .default
  relay := .default
  maxAttempts := 3
  workingDirectory := "/fleet"
  now := ⟨⟨2024, 1, 2⟩, 3, 4, 5, 0, some 0⟩

/-- A template for an identity node. -/
def template : Runner :=
  { Runner.template .identity (.one ⟨.str "identity",
      [("id", .str "1"), ("identity", .str "0xab"), ("passphrase", .str "secret")]⟩) with
    volumes := [⟨.str "/keystore", none, true⟩] }

/-- A network with a few free addresses. -/
def networkDocument : String :=
  "[\x7b\"IPAM\":\x7b\"Config\":[\x7b\"Subnet\":\"10.0.0.0/29\"\x7d]\x7d\x7d]"

/-- A session in which the name of the first container is taken. -/
def session : Session where
  binary := "docker"
  answers :=
    [("network", [⟨networkDocument.toUTF8, .empty, 0⟩]),
     ("create",
       [⟨.empty, "The name is already in use by container 5c".toUTF8, 1⟩,
        ⟨"7d\n".toUTF8, .empty, 0⟩])]
  log := []
  issued := 0

end Sample

end ProxyFleet.Creation
