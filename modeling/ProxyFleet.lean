import ProxyFleet.Access
import ProxyFleet.Address
import ProxyFleet.Address.Network
import ProxyFleet.Binary64
import ProxyFleet.Binary64.Shortest
import ProxyFleet.Calendar.Date
import ProxyFleet.Calendar.Iso
import ProxyFleet.Calendar.Moment
import ProxyFleet.Catalogue.Api
import ProxyFleet.Catalogue.Cache
import ProxyFleet.Catalogue.Registration
import ProxyFleet.Catalogue.Registry
import ProxyFleet.Catalogue.Source
import ProxyFleet.Catalogue.Store
import ProxyFleet.Catalogue.Web
import ProxyFleet.Catalogue.World
import ProxyFleet.Creation.Allocation
import ProxyFleet.Creation.Assembly
import ProxyFleet.Creation.Attempts
import ProxyFleet.Creation.Collision
import ProxyFleet.Creation.Groundwork
import ProxyFleet.Creation.Naming
import ProxyFleet.Creation.Order
import ProxyFleet.Creation.Settings
import ProxyFleet.Digest.NameId
import ProxyFleet.Digest.Sha1
import ProxyFleet.Discovery
import ProxyFleet.Docker.Command
import ProxyFleet.Docker.Container
import ProxyFleet.Docker.Document
import ProxyFleet.Docker.NetworkInfo
import ProxyFleet.Docker.Session
import ProxyFleet.Docker.Spec
import ProxyFleet.Docker.Timestamp
import ProxyFleet.Failure
import ProxyFleet.Filter.Arrangement
import ProxyFleet.Filter.Arrangement.Merge
import ProxyFleet.Filter.Arrangement.Search
import ProxyFleet.Filter.Basic
import ProxyFleet.Filter.Listing
import ProxyFleet.Gather
import ProxyFleet.Json
import ProxyFleet.Json.Printer
import ProxyFleet.Json.Reader
import ProxyFleet.Keyed
import ProxyFleet.Label.Basic
import ProxyFleet.Label.Flat
import ProxyFleet.Label.Owner
import ProxyFleet.Least
import ProxyFleet.Options
import ProxyFleet.Proofs.Creation.ContainerLabels
import ProxyFleet.Proofs.Creation.Discovered
import ProxyFleet.Proofs.Creation.History
import ProxyFleet.Proofs.Creation.Leaks
import ProxyFleet.Proofs.Creation.Preparation
import ProxyFleet.Proofs.Creation.Retries
import ProxyFleet.Proofs.Creation.Round
import ProxyFleet.Proofs.Creation.Success
import ProxyFleet.Proofs.Docker.Commands
import ProxyFleet.Proofs.Docker.Inspection
import ProxyFleet.Proofs.Docker.Log
import ProxyFleet.Proofs.Keyed
import ProxyFleet.Proofs.Label.Keys
import ProxyFleet.Proofs.Label.Reading
import ProxyFleet.Proofs.Label.Regroup
import ProxyFleet.Proofs.Label.Restoring
import ProxyFleet.Proofs.Label.Writing
import ProxyFleet.Proofs.Outcome
import ProxyFleet.Proofs.Text.Numeral
import ProxyFleet.Proofs.Text.Splitting
import ProxyFleet.Provider
import ProxyFleet.Proxy
import ProxyFleet.Runner
import ProxyFleet.Text.Basic
import ProxyFleet.Text.Character
import ProxyFleet.Text.Lower
import ProxyFleet.Text.Numeral
import ProxyFleet.Text.Quoted
import ProxyFleet.Text.Symbol
import ProxyFleet.Value
import ProxyFleet.Proofs.Label.Scalar
import ProxyFleet.Proofs.Label.Rereading
import ProxyFleet.Proofs.Creation.Removals
import ProxyFleet.Proofs.Docker.Reading
import ProxyFleet.Proofs.Boundary
import ProxyFleet.Proofs.Docker.Parallel
import ProxyFleet.Proofs.Creation.Secrecy
import ProxyFleet.Proofs.Secrecy
import ProxyFleet.Proofs.Filter.Arrangement
import ProxyFleet.Proofs.Filter.Listing
import ProxyFleet.Proofs.Docker.Filters
import ProxyFleet.Proofs.Runner
import ProxyFleet.Proofs.Discovery.Queries
import ProxyFleet.Proofs.Discovery.Conditions
import ProxyFleet.Proofs.Discovery.Pushdown
import ProxyFleet.Proofs.Creation.Requests
import ProxyFleet.Proofs.Creation.Matching
import ProxyFleet.Proofs.Catalogue.Running
import ProxyFleet.Proofs.Catalogue.Proposals
import ProxyFleet.Proofs.Catalogue.Registration
import ProxyFleet.Proofs.Catalogue.Join
import ProxyFleet.Proofs.Catalogue.Cache
import ProxyFleet.Proofs.Catalogue.Lookup
import ProxyFleet.Proofs.Filter.Pages
import ProxyFleet.Proofs.Access
import ProxyFleet.Proofs.Catalogue.Registered
import ProxyFleet.Proofs.Least
import ProxyFleet.Proofs.Filter.Sorting
import ProxyFleet.Proofs.Creation.Validation
import ProxyFleet.Proofs.Creation.Attempts
import ProxyFleet.Proofs.Creation.Ports
import ProxyFleet.Proofs.Creation.PortCollisions
import ProxyFleet.Proofs.Text.Digits
import ProxyFleet.Proofs.Creation.Naming
import ProxyFleet.Proofs.Discovery.PublishedPorts
import ProxyFleet.Proofs.Creation.Keystores
import ProxyFleet.Proofs.Address.Reading
import ProxyFleet.Proofs.Address.Network
import ProxyFleet.Proofs.Docker.FreeAddress
import ProxyFleet.Proofs.Label.Flattening
import ProxyFleet.Proofs.Label.Refusals
import ProxyFleet.Proofs.Label.Slots
import ProxyFleet.Proofs.Creation.Entities
import ProxyFleet.Proofs.Docker.Arguments
import ProxyFleet.Proofs.Catalogue.Misses
import ProxyFleet.Proofs.Catalogue.Payloads
import ProxyFleet.Proofs.Docker.Pools
import ProxyFleet.Proofs.Creation.Addresses
import ProxyFleet.Proofs.Catalogue.Remembering
import ProxyFleet.Proofs.Gather
import ProxyFleet.Proofs.Catalogue.Reads
import ProxyFleet.Proofs.Calendar.Date
import ProxyFleet.Proofs.Calendar.Moment
import ProxyFleet.Proofs.Calendar.Iso
import ProxyFleet.Proofs.Docker.Timestamp
import ProxyFleet.Proofs.UniversalText
