import ProxyFleet.Docker.Command
import ProxyFleet.Proofs.Outcome

/-!
# Reading what docker answers

Whatever bytes docker answers with, reading them fails with an ordinary failure if it fails: a
document of another shape never passes for a cancellation.
-/

namespace ProxyFleet

/-- Whether an outcome is no cancellation. -/
abbrev Ordinary {α : Type} (x : Except Failure α) : Prop :=
  FailsWith (fun e => e.isOrdinary = true) x

namespace Json

variable (j fallback : Json) (key : Text)

/-- Looking up a member fails in an ordinary way. -/
lemma lookup_ordinary : Ordinary (j.lookup key) := by
  cases j with
  | obj => exact .ok _
  | _ => exact .error rfl

/-- Looking up a member with a fallback fails in an ordinary way. -/
lemma lookupOr_ordinary : Ordinary (j.lookupOr key fallback) := by
  cases j with
  | obj => exact .ok _
  | _ => exact .error rfl

/-- Asking for a member fails in an ordinary way. -/
lemma require_ordinary : Ordinary (j.require key) := by
  unfold require
  split
  · split
    · exact .ok _
    · exact .error rfl
  · exact .error rfl

/-- Taking the first element fails in an ordinary way. -/
lemma first_ordinary : Ordinary j.first := by
  unfold first
  split
  case h_3 => split <;> first | exact .ok _ | exact .error rfl
  all_goals first | exact .ok _ | exact .error rfl

/-- Going through elements fails in an ordinary way. -/
lemma elements_ordinary : Ordinary j.elements := by
  unfold elements
  split <;> first | exact .ok _ | exact .error rfl

/-- Going through members fails in an ordinary way. -/
lemma members_ordinary : Ordinary j.members := by
  cases j with
  | obj => exact .ok _
  | _ => exact .error rfl

/-- Taking a value for a text fails in an ordinary way. -/
lemma asText_ordinary : Ordinary j.asText := by
  cases j with
  | str => exact .ok _
  | _ => exact .error rfl

end Json

namespace Docker

/-- A reply fails in an ordinary way. -/
lemma Reply.result_ordinary (args : List Text) (reply : Reply) :
    Ordinary (reply.result args) := by
  have decoded : ∀ bytes, Ordinary (decode bytes) := by
    intro bytes
    unfold decode
    split
    · exact .ok _
    · exact .error rfl
  unfold Reply.result
  split
  · exact decoded _
  · exact (decoded _).bind fun _ => (decoded _).bind fun _ => .error rfl

/-- An explained failure is as ordinary as the failure. -/
lemma explained_ordinary {α : Type} {what : Text} {x : Except Failure α} (h : Ordinary x) :
    Ordinary (explained what x) := by
  unfold explained
  split
  · exact .ok _
  · rename_i e
    split
    · exact .error rfl
    · exact .error (h e rfl)

/-- Reading a document fails in an ordinary way. -/
lemma readDocument_ordinary (s : Text) : Ordinary (readDocument s) := by
  unfold readDocument
  split
  · exact .ok _
  all_goals exact .error rfl

/-- Reading the networks of a container fails in an ordinary way. -/
lemma Container.readNetworks_ordinary (j : Json) : Ordinary (readNetworks j) :=
  j.members_ordinary.bind fun _ => .mapM fun _ _ =>
    (Json.lookupOr_ordinary _ _ _).bind fun _ => .pure _

/-- Reading a mount fails in an ordinary way. -/
lemma Container.readMount_ordinary (j : Json) : Ordinary (readMount j) :=
  (j.lookupOr_ordinary _ _).bind fun _ => (j.lookupOr_ordinary _ _).bind fun _ => .pure _

/-- Reading a container fails in an ordinary way. -/
lemma Container.ofJson_ordinary (j : Json) : Ordinary (ofJson j) :=
  (j.lookup_ordinary _).bind fun _ => (j.lookup_ordinary _).bind fun _ =>
  (j.lookup_ordinary _).bind fun _ => (j.lookup_ordinary _).bind fun _ =>
  (Json.lookup_ordinary _ _).bind fun _ => (j.require_ordinary _).bind fun _ =>
  (j.require_ordinary _).bind fun _ => (Json.asText_ordinary _).bind fun _ =>
  (Json.lookupOr_ordinary _ _ _).bind fun _ => (Json.asText_ordinary _).bind fun _ =>
  (Json.lookup_ordinary _ _).bind fun _ => (readNetworks_ordinary _).bind fun _ =>
  (Json.lookup_ordinary _ _).bind fun _ => (j.lookup_ordinary _).bind fun _ =>
  (Json.elements_ordinary _).bind fun _ =>
  (FailsWith.mapM fun _ _ => readMount_ordinary _).bind fun _ =>
  (j.lookup_ordinary _).bind fun _ => (Json.lookup_ordinary _ _).bind fun _ =>
  (Json.lookup_ordinary _ _).bind fun _ => (Json.lookup_ordinary _ _).bind fun _ => .pure _

/-- Reading a list of containers fails in an ordinary way. -/
lemma readContainers_ordinary (s : Text) : Ordinary (readContainers s) := by
  unfold readContainers
  split
  · exact .ok _
  · exact explained_ordinary ((readDocument_ordinary s).bind fun j =>
      j.elements_ordinary.bind fun _ => .mapM fun _ _ => Container.ofJson_ordinary _)

/-- What is taken from a failed inspection is as ordinary as the failure. -/
lemma inspectionOutput_ordinary {x : Except Failure Text} (h : Ordinary x) :
    Ordinary (inspectionOutput x) := by
  unfold inspectionOutput
  split
  · split
    · exact .ok _
    · exact .error rfl
  · exact h

/-- Reading a name to look for fails in an ordinary way. -/
lemma nameFilter_ordinary (j : Json) : Ordinary (nameFilter j) := by
  unfold nameFilter
  split
  · exact .ok _
  · split
    · exact .ok _
    · exact .error rfl

/-- Writing a query as arguments fails in an ordinary way. -/
lemma Query.toArgs_ordinary (q : Query) : Ordinary q.toArgs :=
  (nameFilter_ordinary _).bind fun _ => .pure _

namespace NetworkInfo

/-- Reading the held addresses fails in an ordinary way. -/
lemma readAddresses_ordinary (containers : List (Text × Json)) :
    Ordinary (readAddresses containers) := by
  induction containers with
  | nil => exact .ok _
  | cons container rest ih =>
    refine (Json.lookup_ordinary _ _).bind fun address => ?_
    split
    · exact ih
    · exact (Json.asText_ordinary _).bind fun _ => ih.bind fun _ => .pure _

/-- Reading what is told about a network fails in an ordinary way. -/
lemma ofJson_ordinary (name : Text) (j : Json) : Ordinary (ofJson name j) :=
  j.first_ordinary.bind fun _ => (Json.require_ordinary _ _).bind fun _ =>
  (Json.require_ordinary _ _).bind fun _ => (Json.first_ordinary _).bind fun _ =>
  (Json.lookup_ordinary _ _).bind fun _ => (Json.require_ordinary _ _).bind fun _ =>
  (Json.lookup_ordinary _ _).bind fun _ => (Json.members_ordinary _).bind fun _ =>
  (readAddresses_ordinary _).bind fun _ => .pure _

/-- Reading the text about a network fails in an ordinary way. -/
lemma read_ordinary (name s : Text) : Ordinary (read name s) :=
  explained_ordinary ((readDocument_ordinary s).bind fun _ => ofJson_ordinary _ _)

/-- Looking for a free address fails in an ordinary way. -/
lemma freeAddress_ordinary (info : NetworkInfo) : Ordinary info.freeAddress := by
  have network : ∀ j, Ordinary (readNetwork j) := by
    intro j
    unfold readNetwork
    split
    · exact .ok _
    · exact .error rfl
  have address : ∀ j, Ordinary (readAddress j) := by
    intro j
    unfold readAddress
    split
    · exact .ok _
    · exact .error rfl
  have reserved : ∀ base gateway held, Ordinary (reserved base gateway held) := by
    intro base gateway held
    have others : ∀ gateway : List Address, Ordinary (do
        let held ← held.mapM readAddress
        return base :: (gateway ++ held)) :=
      fun _ => (FailsWith.mapM fun _ _ => address _).bind fun _ => .pure _
    unfold Docker.reserved
    split
    · exact others []
    · exact (address _).bind fun _ => others _
  refine (network _).bind fun _ => (reserved _ _ _).bind fun _ => ?_
  split
  · exact .pure _
  · exact .error rfl

end NetworkInfo

end Docker

end ProxyFleet
