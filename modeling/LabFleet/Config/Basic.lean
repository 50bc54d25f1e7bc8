import LabFleet.Config.Profile
import LabFleet.Error
import LabFleet.Service.Catalog

/-!
A lab configuration: named nameserver profiles, daemon profiles and service bindings, and
the autolaunch set. Built-in `default` profiles of both kinds are always present unless a
document redefines them. A configuration is checked as a whole by `LabConfig.validate`;
renaming a profile rewrites every reference to it, so a valid configuration stays valid.
-/

namespace LabFleet.Config

/-- The highest document version this build understands. -/
def supportedVersion : Nat := 1

/-- A lab configuration. -/
structure LabConfig where
  version : Nat := supportedVersion
  nameservers : NameMap NameserverProfile := [(defaultProfile, {})]
  daemons : NameMap DaemonProfile := [(defaultProfile, {})]
  services : NameMap ServiceBinding := []
  autolaunch : Autolaunch := {}
  deriving Inhabited

instance : BEq LabConfig where
  beq a b := a.version == b.version && a.nameservers == b.nameservers &&
    a.daemons == b.daemons && a.services == b.services && a.autolaunch == b.autolaunch

/-- Names, sorted and without repeats. -/
def sortedNames (names : List String) : List String :=
  NameMap.keys (NameMap.ofList (names.map fun n => (n, ())))

/-- Refuses names that can never identify a profile: blank ones and `all`. -/
def checkName (sectionName name : String) : Result Unit :=
  if isBlank name then
    .error (.configuration (sectionName ++ ".<empty>") "name" "profile names must not be empty")
  else if name == reservedAll then
    .error (.configuration (sectionName ++ "." ++ name) "name" ("'" ++ reservedAll ++ "' is reserved"))
  else .ok ()

namespace LabConfig

/-- Whether a profile of a kind exists. -/
def contains (c : LabConfig) (kind : ProfileKind) (name : String) : Bool :=
  match kind with
  | .nameserver => c.nameservers.contains name
  | .daemon => c.daemons.contains name

/-- The profile names of a kind, sorted. -/
def names (c : LabConfig) (kind : ProfileKind) : List String :=
  match kind with
  | .nameserver => c.nameservers.keys
  | .daemon => c.daemons.keys

/-- A nameserver profile by name. -/
def nameserver (c : LabConfig) (name : String) : Result NameserverProfile :=
  match c.nameservers.find? name with
  | some p => .ok p
  | none => .error (.unknownProfile .nameserver name)

/-- A daemon profile by name. -/
def daemon (c : LabConfig) (name : String) : Result DaemonProfile :=
  match c.daemons.find? name with
  | some p => .ok p
  | none => .error (.unknownProfile .daemon name)

/-- The bindings a daemon profile hosts, by service name. -/
def servicesForDaemon (c : LabConfig) (daemon : String) : NameMap ServiceBinding :=
  c.services.filter fun e => e.2.daemon == daemon

/-- The nameservers a daemon talks to, for itself or for a service it hosts; sorted. -/
def daemonDependencies (c : LabConfig) (daemon : String) : List String :=
  let own := match c.daemons.find? daemon with
    | some d => d.nameservers
    | none => []
  sortedNames (own ++ (c.servicesForDaemon daemon).flatMap fun e => e.2.nameservers)

/-- The daemons that register with a nameserver. -/
def nameserverDependents (c : LabConfig) (nameserver : String) : List String :=
  c.daemons.keys.filter fun d => (c.daemonDependencies d).contains nameserver

/-- The first failure of a list of checks. -/
def firstFailure : List (Unit → Result Unit) → Result Unit
  | [] => .ok ()
  | check :: rest => match check () with
    | .ok () => firstFailure rest
    | .error e => .error e

/-- Checks references, names and, given a catalog, that every implementation is in it. -/
def validate (c : LabConfig) (catalog : Option Catalog) : Result Unit := do
  if c.version > supportedVersion then
    throw (.configuration "<document>" "version"
      s!"version {c.version} is newer than supported version {supportedVersion}")
  for (name, _) in c.nameservers do
    checkName "nameservers" name
  for (name, d) in c.daemons do
    checkName "daemons" name
    if d.maxWorkers == 0 then
      throw (.configuration ("daemons." ++ name) "max_workers" "must be at least 1")
    for ns in d.nameservers do
      if !c.nameservers.contains ns then
        throw (.configuration ("daemons." ++ name) "nameservers"
          ("references unknown nameserver '" ++ ns ++ "'"))
  for (name, b) in c.services do
    checkName "services" name
    if isBlank b.implementation then
      throw (.configuration ("services." ++ name) "implementation" "is required")
    if let some cat := catalog then
      if !cat.contains b.implementation then
        throw (.configuration ("services." ++ name) "implementation"
          ("'" ++ b.implementation ++ "' is not in the service catalog"))
    if !c.daemons.contains b.daemon then
      throw (.configuration ("services." ++ name) "daemon"
        ("references unknown daemon '" ++ b.daemon ++ "'"))
    for ns in b.nameservers do
      if !c.nameservers.contains ns then
        throw (.configuration ("services." ++ name) "nameservers"
          ("references unknown nameserver '" ++ ns ++ "'"))
  for kind in [ProfileKind.nameserver, ProfileKind.daemon] do
    for name in c.autolaunch.names kind do
      if !c.contains kind name then
        throw (.configuration "autolaunch" kind.sectionName
          ("references unknown " ++ kind.name ++ " '" ++ name ++ "'"))

/-- Replaces `old` by `new` in a list of names. -/
def replaceName (old new : String) (names : List String) : List String :=
  names.map fun n => if n == old then new else n

/-- Renames a profile and rewrites every reference to it. -/
def rename (c : LabConfig) (kind : ProfileKind) (old new : String) : Result LabConfig := do
  checkName kind.sectionName new
  if !c.contains kind old then throw (.unknownProfile kind old)
  if c.contains kind new then
    throw (.configuration (kind.sectionName ++ "." ++ new) "name"
      ("a " ++ kind.name ++ " named '" ++ new ++ "' already exists"))
  let c := match kind with
    | .nameserver =>
      let moved := match c.nameservers.find? old with
        | some p => (c.nameservers.erase old).insert new p
        | none => c.nameservers
      { c with
        nameservers := moved
        daemons := c.daemons.map fun (e : String × DaemonProfile) =>
          (e.1, { e.2 with nameservers := replaceName old new e.2.nameservers })
        services := c.services.map fun (e : String × ServiceBinding) =>
          (e.1, { e.2 with nameservers := replaceName old new e.2.nameservers }) }
    | .daemon =>
      let moved := match c.daemons.find? old with
        | some p => (c.daemons.erase old).insert new p
        | none => c.daemons
      { c with
        daemons := moved
        services := c.services.map fun (e : String × ServiceBinding) =>
          (e.1, if e.2.daemon == old then { e.2 with daemon := new } else e.2) }
  return { c with autolaunch :=
    c.autolaunch.setNames kind (replaceName old new (c.autolaunch.names kind)) }

/-- Renames a service binding. The hosting daemon keeps its name. -/
def renameService (c : LabConfig) (old new : String) : Result LabConfig := do
  checkName "services" new
  if c.services.contains new then
    throw (.configuration ("services." ++ new) "name"
      ("a service named '" ++ new ++ "' already exists"))
  match c.services.find? old with
  | none => throw (.unknownService old)
  | some b => return { c with services := (c.services.erase old).insert new b }

end LabConfig

end LabFleet.Config
