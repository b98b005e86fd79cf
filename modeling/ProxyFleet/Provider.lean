import ProxyFleet.Runner

/-!
# Providers

A provider of VPN connections as the discovery service lists it. Whether it is registered, by which
runner, and whether it is online is not part of the listing but computed from the live runners.
-/

namespace ProxyFleet

/-- The kind of network that a provider's address belongs to. -/
inductive IpType where
  | hosting
  | residential
  | business
  | mobile
  | organization
  | education
  deriving DecidableEq, Repr

namespace IpType

def all : List IpType := [hosting, residential, business, mobile, organization, education]

def name : IpType → Text
  | hosting => "hosting"
  | residential => "residential"
  | business => "business"
  | mobile => "mobile"
  | organization => "organization"
  | education => "education"

def ofJson? : Json → Option IpType
  | .str s => all.find? fun t => t.name == s
  | _ => none

end IpType

/-- Whether a provider can be reached. -/
inductive ProviderStatus where
  | offline
  | pending
  | online
  deriving DecidableEq, Repr

namespace ProviderStatus

def name : ProviderStatus → Text
  | offline => "offline"
  | pending => "pending"
  | online => "online"

def ofJson? : Json → Option ProviderStatus
  | .str s => [offline, pending, online].find? fun status => status.name == s
  | _ => none

end ProviderStatus

/-- A provider; all of them are WireGuard services of the Mysterium network. -/
structure Provider where
  id : Text
  identity : Text
  ipType : IpType
  country : Json
  userIdentity : Option Text
  status : Option ProviderStatus
  ip : Option Text
  quality : Json
  bandwidth : Json
  latency : Json
  runner : Option Runner
  registered : Bool
  insertDate : Option Moment

namespace Provider

/-- The only kind of service that providers are listed for. -/
def serviceType : Text := "wireguard"

/-- The network that all providers belong to. -/
def networkName : Text := "mysterium"

def fields (p : Provider) : List (Text × Value) :=
  [("id", .str p.id),
   ("provider_identity", .str p.identity),
   ("provider_ip_type", .str p.ipType.name),
   ("country", .ofJson p.country),
   ("service_type", .str serviceType),
   ("provider_name", .str networkName),
   ("user_identity", .ofText? p.userIdentity),
   ("provider_status", .ofText? (p.status.map ProviderStatus.name)),
   ("ip", .ofText? p.ip),
   ("quality", .ofJson p.quality),
   ("bandwidth", .ofJson p.bandwidth),
   ("latency", .ofJson p.latency),
   ("runner", p.runner.elim .null Runner.toValue),
   ("is_register", .bool p.registered),
   ("insert_date", .ofMoment? p.insertDate)]

/-- An attribute of a provider, null when there is none of that name. -/
def attr (p : Provider) (field : Text) : Value := (Keyed.get? field p.fields).getD .null

end Provider

end ProxyFleet
