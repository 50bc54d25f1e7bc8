import LabFleet.Config.Basic
import LabFleet.Yaml.Emit
import LabFleet.Json.Basic

/-!
Writing a configuration back out. Records become YAML mappings with their fields in
declaration order. Two views are written: the merged view shows every field of every
record, built-in profiles included; the diff view shows only fields that differ from their
defaults, leaves out a built-in profile still at its defaults, and leaves out empty sections
and an empty autolaunch set. Either view loads back as the same configuration.

A profile's fingerprint is the compact JSON of everything that shapes its subprocess; for a
daemon that is its profile, the bindings it hosts and the nameservers it registers with.
-/

namespace LabFleet.Config

open Yaml

/-- How a configuration is written. -/
inductive RenderView where
  /-- Every field of every profile, built-ins included. -/
  | merged
  /-- Only what differs from the defaults. -/
  | diff
  deriving DecidableEq, Repr, Inhabited

/-- A string that may be absent, as a value. -/
def optionalNode (o : Option String) : Node :=
  match o with
  | some s => .string s
  | none => .null

/-- A list of names as a value. -/
def namesNode (names : List String) : Node := .sequence (names.map .string)

mutual
/-- A parameter as a value. -/
def ParamValue.toNode : ParamValue → Node
  | .bool b => .bool b
  | .int i => .number (Number.ofInt i)
  | .float f => .number (.float f)
  | .str s => .string s
  | .list items => .sequence (ParamValue.itemsToNode items)
  | .map entries => .mapping (ParamValue.entriesToNode entries)

/-- Parameters of a list as values. -/
def ParamValue.itemsToNode : List ParamValue → List Node
  | [] => []
  | p :: rest => p.toNode :: ParamValue.itemsToNode rest

/-- Parameters of a map as entries. -/
def ParamValue.entriesToNode : List (String × ParamValue) → List (Node × Node)
  | [] => []
  | (k, p) :: rest => (.string k, p.toNode) :: ParamValue.entriesToNode rest
end

/-- A nameserver profile as a mapping. -/
def NameserverProfile.toNode (p : NameserverProfile) : Node :=
  .mapping [
    (.string "host", .string p.host),
    (.string "port", .number (.nat p.port)),
    (.string "broadcast_host", optionalNode p.broadcastHost),
    (.string "broadcast_port", .number (.nat p.broadcastPort)),
    (.string "autoclean_secs", .number (.nat p.autocleanSecs)),
    (.string "storage", .string (Spelled.name p.storage)),
    (.string "storage_path", optionalNode p.storagePath)]

/-- A daemon profile as a mapping. -/
def DaemonProfile.toNode (p : DaemonProfile) : Node :=
  .mapping [
    (.string "variant", .string (Spelled.name p.variant)),
    (.string "host", .string p.host),
    (.string "port", .number (.nat p.port)),
    (.string "concurrency", .string (Spelled.name p.concurrency)),
    (.string "max_workers", .number (.nat p.maxWorkers)),
    (.string "unix_socket", optionalNode p.unixSocket),
    (.string "nat_host", optionalNode p.natHost),
    (.string "nat_port", match p.natPort with
      | some n => .number (.nat n)
      | none => .null),
    (.string "nameservers", namesNode p.nameservers),
    (.string "comm_timeout_secs", .number (.nat p.commTimeoutSecs))]

/-- A service binding as a mapping. -/
def ServiceBinding.toNode (b : ServiceBinding) : Node :=
  .mapping [
    (.string "implementation", .string b.implementation),
    (.string "parameters", .mapping (ParamValue.entriesToNode b.parameters)),
    (.string "description", .string b.description),
    (.string "instance_mode", .string (Spelled.name b.instanceMode)),
    (.string "daemon", .string b.daemon),
    (.string "nameservers", namesNode b.nameservers)]

/-- The autolaunch set as a mapping. -/
def Autolaunch.toNode (a : Autolaunch) : Node :=
  .mapping [
    (.string "nameservers", namesNode a.nameservers),
    (.string "daemons", namesNode a.daemons)]

/-- The entries of a record mapping that differ from those of the default record. -/
def diffEntries (full base : Node) : Node :=
  match full, base with
  | .mapping fs, .mapping bs =>
    .mapping (fs.filter fun (k, v) =>
      match bs.find? (fun e => Node.equal e.1 k) with
      | some (_, bv) => !Node.equal bv v
      | none => true)
  | _, _ => .mapping []

/-- A section of a document in a view; `builtin` names a record left out of the diff view
while it is at its defaults. -/
def renderSection (records : NameMap α) (toNode : α → Node) (isDefault : α → Bool)
    (base : α) (view : RenderView) (builtin : Option String) : List (Node × Node) :=
  records.filterMap fun (name, r) =>
    match view with
    | .merged => some (.string name, toNode r)
    | .diff =>
      if builtin == some name && isDefault r then none
      else some (.string name, diffEntries (toNode r) (toNode base))

namespace LabConfig

/-- The document of a configuration in a view. -/
def toDocument (c : LabConfig) (view : RenderView) : Node :=
  let sections : List (String × List (Node × Node)) := [
    ("nameservers", renderSection c.nameservers NameserverProfile.toNode
      (fun p => decide (p = {})) {} view (some defaultProfile)),
    ("daemons", renderSection c.daemons DaemonProfile.toNode
      (fun p => decide (p = {})) {} view (some defaultProfile)),
    ("services", renderSection c.services ServiceBinding.toNode (fun _ => false) {} view none)]
  let shown := sections.filterMap fun (k, entries) =>
    if view == .merged || !entries.isEmpty then some (Node.string k, Node.mapping entries)
    else none
  let autolaunch : List (Node × Node) := match view with
    | .merged => [(.string "autolaunch", c.autolaunch.toNode)]
    | .diff =>
      if c.autolaunch.isEmpty then []
      else [(.string "autolaunch", diffEntries c.autolaunch.toNode ({} : Autolaunch).toNode)]
  .mapping ((.string "version", .number (.nat c.version)) :: shown ++ autolaunch)

/-- The YAML text of a configuration in a view. -/
def render (c : LabConfig) (view : RenderView) : String := (c.toDocument view).emit

/-- One profile or binding with every field, keyed by its name. -/
def renderEntry (c : LabConfig) (kind : EntryKind) (name : String) : Result String := do
  let value ← match kind with
    | .nameserver => NameserverProfile.toNode <$> c.nameserver name
    | .daemon => DaemonProfile.toNode <$> c.daemon name
    | .service => match c.services.find? name with
      | some b => pure b.toNode
      | none => throw (.unknownService name)
  return (Node.mapping [(.string name, value)]).emit

end LabConfig

mutual
/-- A value with string keys as JSON. -/
def jsonOf : Node → Json
  | .null => .null
  | .bool b => .bool b
  | .number n => .number n
  | .string s => .string s
  | .sequence items => .array (jsonOfItems items)
  | .mapping entries => .object (jsonOfEntries entries)
  | .tagged _ v => jsonOf v

/-- Values of a list as JSON. -/
def jsonOfItems : List Node → List Json
  | [] => []
  | x :: rest => jsonOf x :: jsonOfItems rest

/-- Entries with string keys as JSON fields. -/
def jsonOfEntries : List (Node × Node) → List (String × Json)
  | [] => []
  | (.string k, v) :: rest => (k, jsonOf v) :: jsonOfEntries rest
  | _ :: rest => jsonOfEntries rest
end

namespace LabConfig

/-- A stable digest of everything that shapes the subprocess of a profile: its JSON text, and
for a daemon also the bindings it hosts and the nameservers it registers with. -/
def fingerprint (c : LabConfig) (kind : ProfileKind) (name : String) : Option String :=
  match kind with
  | .nameserver => (c.nameservers.find? name).map fun p => (jsonOf p.toNode).write
  | .daemon => (c.daemons.find? name).map fun p =>
    let services := (c.servicesForDaemon name).map fun (n, b) => (n, jsonOf b.toNode)
    let nameservers := (c.daemonDependencies name).map fun ns =>
      (ns, match c.nameservers.find? ns with
        | some q => jsonOf q.toNode
        | none => Json.null)
    (Json.array [jsonOf p.toNode, .object services, .object nameservers]).write

end LabConfig

end LabFleet.Config
