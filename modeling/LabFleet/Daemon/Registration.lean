import LabFleet.Config.Basic
import LabFleet.Wire.Address

/-!
What a daemon publishes into its nameservers. Each hosted service is registered under its own
name with every nameserver its binding lists, and the daemon's own object under
`daemon.<name>` with every nameserver the daemon profile lists. All of them are published at
one endpoint: the endpoint the daemon is bound to, except that a TCP endpoint takes the
profile's NAT host and port when they are set, and otherwise the host clients dial for the
profile's bind host.
-/

namespace LabFleet.Daemon

open Config Wire

/-- The object name a nameserver serves its directory under. -/
def nameserverObject : String := "nameserver"

/-- The address clients use to reach a nameserver profile. -/
def nameserverAddress (p : NameserverProfile) : Address :=
  ⟨nameserverObject, .tcp (connectHost p.host) p.port⟩

/-- One name a daemon publishes into one nameserver. -/
structure Registration where
  nameserver : String
  nameserverAddress : Address
  name : String
  address : Address
  metadata : List String
  deriving DecidableEq, Repr

/-- The endpoint written into published addresses, honouring the NAT override. -/
def publishedEndpoint (p : DaemonProfile) (bound : Endpoint) : Endpoint :=
  match bound with
  | .tcp _ port => .tcp (p.natHost.getD (connectHost p.host)) (p.natPort.getD port)
  | unix => unix

/-- Everything daemon `name` registers: each hosted service with its binding's nameservers,
then the daemon's own object with the profile's nameservers. -/
def registrations (name : String) (config : LabConfig) (published : Endpoint) :
    Result (List Registration) := do
  let profile ← config.daemon name
  let entry (ns entryName object : String) (metadata : List String) : Result Registration := do
    let nsProfile ← config.nameserver ns
    return { nameserver := ns, nameserverAddress := nameserverAddress nsProfile,
             name := entryName, address := ⟨object, published⟩, metadata }
  let mut plan : List Registration := []
  for (service, binding) in config.servicesForDaemon name do
    let metadata := s!"implementation:{binding.implementation}" ::
      (if binding.description.isEmpty then [] else [binding.description])
    for ns in binding.nameservers do
      plan := plan ++ [← entry ns service service metadata]
  for ns in profile.nameservers do
    plan := plan ++ [← entry ns s!"daemon.{name}" "daemon" [s!"variant:{Spelled.name profile.variant}"]]
  return plan

end LabFleet.Daemon
