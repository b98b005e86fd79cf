import ProxyFleet.Catalogue.Source
import ProxyFleet.Digest.NameId

/-!
# The discovery service

Providers are read from the proposals of the discovery service, which evaluates conditions on
country, identity and kind of network itself.
-/

namespace ProxyFleet.Catalogue

/-- Where the discovery service is, how long to wait for it, and the time that providers are dated
with. -/
structure ApiSettings where
  baseUrl : Text
  timeout : Json
  now : Moment

def ApiSettings.url (s : ApiSettings) : Text :=
  Text.stripEnd '/' s.baseUrl ++ "/api/v3/proposals"

/-- The attributes that the service filters by, and its parameters for them. -/
def pushedFields : List (Text × Text) :=
  [("country", "location_country"), ("provider_identity", "provider_id"),
   ("provider_ip_type", "ip_type")]

/-- The parameters of an unfiltered request. -/
def baseParams : List (Text × Text) := [("service_type", Provider.serviceType)]

/-- The parameters of a request for a filter, as far as the numbers in its conditions can be
written. -/
def paramsOf (f : Filter) : List (Text × Text) :=
  baseParams ++ pushedFields.filterMap fun (field, param) =>
    (f.condition? field).map fun c => (param, c.operand.asJson.text)

/-- Whether the conditions that become parameters can be written. -/
def hasParams (f : Filter) : Bool :=
  pushedFields.all fun (field, _) => (f.condition? field).all fun c => c.operand.asJson.isWritable

/-- Writes the parameters of a request for a filter. -/
def writeParams (f : Filter) : Except Failure (List (Text × Text)) :=
  if hasParams f then .ok (paramsOf f) else .error .badNumeral

def readIpType (location : Json) : Except Failure IpType := do
  let ipType ← location.lookup "ip_type"
  match IpType.ofJson? ipType with
  | some t => return t
  | none => throw (.incompleteInput ["provider_ip_type"])

/-- The text of a value that has to be one in order to be named. -/
def readIdentity : Json → Except Failure Text
  | .str s => .ok s
  | _ => .error .wrongType

def idOf (identity : Text) : Except Failure Text :=
  match nameId? identity with
  | some id => .ok id
  | none => .error .unencodable

def readProposal (now : Moment) (row : Json) : Except Failure Provider := do
  let location ← row.require "location"
  let quality := (← row.lookup "quality").orEmpty
  let ipType ← readIpType location
  let identity ← readIdentity (← row.require "provider_id")
  let id ← idOf identity
  let country ← location.lookup "country"
  let level ← quality.lookup "quality"
  let bandwidth ← quality.lookup "bandwidth"
  let latency ← quality.lookup "latency"
  return {
    id
    identity
    ipType
    country
    userIdentity := none
    status := none
    ip := none
    quality := level
    bandwidth
    latency
    runner := none
    registered := false
    insertDate := some now }

def readProposals (now : Moment) (rows : Json) : Except Failure (List Provider) := do
  let rows ← (if rows.isBlank then .arr [] else rows : Json).elements
  rows.mapM (readProposal now)

/-- Whether a failure of a request or of its payload is reported as one of the service. Failures of
locks count as bad values, whoever reports them. -/
def isServiceFailure : Failure → Bool
  | .request _ _ | .key _ | .wrongType | .value _ | .malformedJson | .badNumeral | .undecodable
  | .unencodable => true
  | .store kind _ => kind == "LockError" || kind == "LockNotOwnedError"
  | _ => false

/-- A failure of the service as its boundary reports it. -/
def reported {α : Type} : Except Failure α → Except Failure α
  | .ok x => .ok x
  | .error e => .error (if isServiceFailure e then .repository e false none else e)

def ApiSettings.request (s : ApiSettings) (params : List (Text × Text)) : Web.Request where
  url := s.url
  params
  headers := [("content-type", "application/json")]
  timeout := s.timeout

/-- The providers that a request with the given parameters lists. -/
def fetch (s : ApiSettings) (params : List (Text × Text)) :
    Web.Run (List Provider) := fun web =>
  let (outcome, web) := Web.get (s.request params) web
  (reported (outcome.bind (readProposals s.now)), web)

namespace Api

def getAll (s : ApiSettings) (f : Filter) : Web.Run (Listing Provider) := do
  let params ← writeParams f
  let providers ← fetch s params
  Listing.ofFilter Provider.attr (some (pushedFields.map Prod.fst)) f providers

def getById (s : ApiSettings) (id : Text) : Web.Run (Option Provider) := do
  let providers ← fetch s baseParams
  return providers.find? fun p => p.id == id

def source (s : ApiSettings) : Source where
  getAll f := World.onWeb (getAll s f)
  getById id := World.onWeb (getById s id)

end Api

end ProxyFleet.Catalogue
