import ProxyFleet.Json
import ProxyFleet.Label.Owner

/-!
# Failures

Why an operation fails. The failures of the fleet itself come first; the others are those of the
runtime, the discovery service, the key store and of documents that do not have the expected shape.
At the boundary of a component the latter are wrapped into one of the former.
-/

namespace ProxyFleet

/-- What breaks off a computation although nothing in it has gone wrong. No handler of failures
takes it. -/
inductive Interruption where
  /-- The computation was cancelled. -/
  | cancellation (text : Text)
  /-- The whole process is to end. -/
  | exit (kind text : Text)
  /-- A signal of any other kind. -/
  | signal (kind text : Text)

instance : Coe Text Interruption := ⟨.cancellation⟩

def Interruption.text : Interruption → Text
  | cancellation text | exit _ text | signal _ text => text

inductive Failure where
  /-- Required fields were not supplied or cannot be read. -/
  | incompleteInput (fields : List Text)
  /-- A label entry belongs to no known kind of owner. -/
  | unrecognizedOwner (tag : Json)
  /-- A label has no entry of a kind of owner. -/
  | missingOwner (owner : Owner)
  /-- No address of a network is left. -/
  | addressesExhausted (network : Text)
  /-- A lower layer failed, after a container had been made if `created` holds. -/
  | repository (cause : Failure) (created : Bool) (container : Option Text)
  /-- A failure together with those of the attempt to compensate for it. -/
  | combined (primary : Failure) (others : List Failure)
  /-- No other case applies. -/
  | unknown
  /-- A container that is needed does not run. -/
  | notRunning (service : Option Text)
  /-- A host port is taken. -/
  | portInUse (port : Option Int)
  /-- A docker command ended with a status other than zero. -/
  | command (args : List Text) (status : Int) (stderr stdout : Text)
  | runtime (text : Text)
  | os (text : Text)
  | value (text : Text)
  /-- A member is missing; `name` is shown as it stands. -/
  | key (name : Text)
  /-- No failure at all: the computation was cancelled, or broken off otherwise. -/
  | cancelled (cause : Interruption)
  /-- The key store failed. -/
  | store (kind text : Text)
  /-- A request failed. -/
  | request (kind text : Text)
  /-- An operation met a value that it is not defined for. -/
  | wrongType
  /-- A value does not have the member that was asked for. -/
  | noAttribute
  /-- A position lies outside a list. -/
  | outOfRange
  /-- A number is too large for its use. -/
  | overflow
  /-- Bytes are not valid text. -/
  | undecodable
  /-- A text has no bytes. -/
  | unencodable
  /-- A text is no JSON document. -/
  | malformedJson
  /-- An object or array of a JSON document stands inside too many others. -/
  | tooDeep (object : Bool)
  /-- A text is no whole number, or the numeral of a number has too many digits. -/
  | badNumeral

instance : Inhabited Failure := ⟨.unknown⟩

namespace Failure

/-- Whether a failure is one of the fleet's own. -/
def isFleet : Failure → Bool
  | incompleteInput _ | unrecognizedOwner _ | missingOwner _ | addressesExhausted _
  | repository _ _ _ | combined _ _ | unknown | notRunning _ | portInUse _ => true
  | _ => false

/-- Whether a failure may be handled; an interruption may not. -/
def isOrdinary : Failure → Bool
  | cancelled _ => false
  | _ => true

mutual

/-- Whether the caller can correct the cause. -/
def isOperation : Failure → Bool
  | notRunning _ => true
  | portInUse _ => true
  | combined primary others => isOperation primary && allOperation others
  | _ => false

/-- Whether the caller can correct the cause of every failure of a list. -/
def allOperation : List Failure → Bool
  | [] => true
  | f :: rest => isOperation f && allOperation rest

end

def message : Failure → Text
  | incompleteInput fields => "Missing required fields: " ++ Text.join ", " fields
  | unrecognizedOwner .null => "Label does not contain any namespace"
  | unrecognizedOwner tag => "Unrecognized label namespace: " ++ tag.shown
  | missingOwner owner => "Label does not contain a " ++ owner.labelName ++ " entry"
  | addressesExhausted network => "No free IPv4 address left in network " ++ Text.quoted network
  | repository cause _ _ => "Repository error: " ++ cause.message
  | combined primary _ => primary.message
  | unknown => "Unknown error happened"
  | notRunning service =>
    match service with
    | some name =>
      if name.isEmpty then "The service is not running or stopped"
      else "Service " ++ Text.quoted name ++ " is not running or stopped"
    | none => "The service is not running or stopped"
  | portInUse port =>
    match port with
    | some n =>
      if n = 0 then "The port is already in use"
      else "Port " ++ Text.numeral n ++ " is already in use"
    | none => "The port is already in use"
  | command args _ stderr _ => "docker " ++ Text.join " " (args.take 2) ++ " failed: " ++ stderr
  | runtime text | os text | value text => text
  | cancelled cause => cause.text
  | key name => name
  | store _ text => text
  | request _ text => text
  | wrongType => "<TypeError>"
  | noAttribute => "<AttributeError>"
  | outOfRange => "<IndexError>"
  | overflow => "<OverflowError>"
  | undecodable => "<UnicodeDecodeError>"
  | unencodable => "<UnicodeEncodeError>"
  | malformedJson => "<JSONDecodeError>"
  | tooDeep object =>
    "maximum recursion depth exceeded while decoding a JSON "
      ++ (if object then "object" else "array") ++ " from a unicode string"
  | badNumeral => "<ValueError>"

/-- The failure of a docker command, blanks around its error output taken off. -/
def ofCommand (args : List Text) (status : Int) (err out : Text) : Failure :=
  command args status (Text.strip err) out

/-- Failures bundled into one; there has to be at least one. -/
def combine : List Failure → Except Failure Failure
  | [] => .error (.value "CombineException needs at least one error")
  | primary :: others => .ok (combined primary others)

/-- A failure of a lower layer as its boundary reports it: one of the fleet's own or an interruption
passes, any other is wrapped. -/
def wrap (f : Failure) : Failure :=
  if f.isFleet || !f.isOrdinary then f else repository f false none

end Failure

end ProxyFleet
