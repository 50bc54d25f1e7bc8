import LabFleet.Config.Basic
import LabFleet.Service.Sample
import LabFleet.Daemon.Locks
import LabFleet.Wire.Call

/-!
The host inside a daemon: it holds the services bound to one daemon profile and dispatches
calls to them. Every service is built once when the host is built, so a bad parameter shows
at startup; after that a service lives as one shared instance, one instance per client
session, or a fresh instance per call, as its binding says.

A call names an object and a method. The object `daemon` is the host itself (`ping`,
`services`, and on a lockable daemon `locks` and `force_release`). Any other object is a
hosted service: `describe` always answers, `lock`, `release` and `islocked` exist on a
lockable daemon, and every other method must be one of the service's operations. On a
lockable daemon a call into a service locked by another connection is refused as busy.
-/

namespace LabFleet.Daemon

open Service Config

/-- The name of the host's own object. -/
def daemonObject : String := "daemon"

/-- The lock operations a lockable daemon adds to every service. -/
def lockOperations : List String := ["lock", "release", "islocked"]

/-- How the instances of a hosted service live. -/
inductive Instances where
  /-- One instance serves every call. -/
  | shared (inst : Instance)
  /-- Each connection gets its own instance on its first call. -/
  | perSession
  /-- Each call gets a fresh instance. -/
  | perCall

/-- A hosted service. -/
structure Hosted where
  binding : ServiceBinding
  operations : List Operation
  instances : Instances

/-- The host of one daemon. -/
structure Host where
  name : String
  profile : DaemonProfile
  services : NameMap Hosted
  /-- The lock table of a lockable daemon. -/
  locks : Option LockTable
  /-- Instances of per-session services, by connection and service. -/
  sessions : List (ConnectionId × NameMap Instance) := []
  /-- The number the next new arithmetic service gets; only arithmetic services are numbered. -/
  nextInstance : Nat
  startedAt : Timestamp

/-- The JSON form of a lock. -/
def Lock.toJson (l : Lock) : Json :=
  .object [("holder", Json.nat l.holder),
    ("user", match l.user with | some u => .string u | none => .null),
    ("acquired_at", .string (l.acquiredAt.toText .auto))]

/-- The JSON form of a lock slot: its lock, or `null` when free. -/
def slotJson : Option Lock → Json
  | some l => l.toJson
  | none => .null

namespace Host

/-- Builds the host of daemon `name`, constructing every service it hosts. -/
def build (name : String) (config : LabConfig) (now : Timestamp) : Result Host := do
  let profile ← config.daemon name
  let mut services : NameMap Hosted := []
  let mut next := 1
  for (service, binding) in config.servicesForDaemon name do
    let inst ← construct binding.implementation binding.parameters next
    next := inst.numberAfter next
    let instances := match binding.instanceMode with
      | .singleton => Instances.shared inst
      | .perSession => .perSession
      | .perCall => .perCall
    services := services.insert service { binding, operations := inst.operations, instances }
  let locks := match profile.variant with
    | .lockable => some (LockTable.new services.keys)
    | .plain => none
  return { name, profile, services, locks, nextInstance := next, startedAt := now }

/-- The names of the hosted services, in order. -/
def serviceNames (h : Host) : List String := h.services.keys

/-- The description of a hosted service. -/
def describe (h : Host) (service : String) (hosted : Hosted) : Json :=
  .object [("name", .string service), ("daemon", .string h.name),
    ("implementation", .string hosted.binding.implementation),
    ("description", .string hosted.binding.description),
    ("instance_mode", .string (Spelled.name hosted.binding.instanceMode)),
    ("operations", .array (hosted.operations.map Operation.toJson)),
    ("locking", Json.strings (if h.locks.isSome then lockOperations else []))]

/-- A new instance of a hosted service. -/
def fresh (h : Host) (hosted : Hosted) : Result (Instance × Host) := do
  let inst ← construct hosted.binding.implementation hosted.binding.parameters h.nextInstance
  return (inst, { h with nextInstance := inst.numberAfter h.nextInstance })

/-- The session instances of a connection. -/
def sessionOf (h : Host) (conn : ConnectionId) : NameMap Instance :=
  ((h.sessions.find? (·.1 == conn)).map (·.2)).getD []

/-- The host with a connection's session instances replaced. -/
def setSession (h : Host) (conn : ConnectionId) (s : NameMap Instance) : Host :=
  { h with sessions := (conn, s) :: h.sessions.filter (·.1 != conn) }

/-- Runs an operation of a hosted service on the instance this call gets. -/
def runOperation (h : Host) (conn : ConnectionId) (service : String) (hosted : Hosted)
    (method : String) (args : Args) : Result Json × Host :=
  match hosted.instances with
  | .shared inst =>
    let (r, next) := inst.call method args
    let hosted' := { hosted with instances := .shared next }
    (r, { h with services := h.services.insert service hosted' })
  | .perCall =>
    match h.fresh hosted with
    | .error e => (.error e, h)
    | .ok (inst, h') => ((inst.call method args).1, h')
  | .perSession =>
    let session := h.sessionOf conn
    let got : Result (Instance × Host) := match session.find? service with
      | some inst => .ok (inst, h)
      | none => h.fresh hosted
    match got with
    | .error e => (.error e, h)
    | .ok (inst, h') =>
      let (r, next) := inst.call method args
      (r, h'.setSession conn (session.insert service next))

/-- A call into a hosted service. -/
def callService (h : Host) (conn : ConnectionId) (now : Timestamp) (service : String)
    (call : Wire.Call) : Result Json × Host :=
  match h.services.find? service with
  | none => (.error (.unknownObject service), h)
  | some hosted =>
    let args : Args := ⟨call.args⟩
    match call.method, h.locks with
    | "describe", _ => (.ok (h.describe service hosted), h)
    | "lock", some locks =>
      let step : Result LockTable := do
        let user ← args.optional 0 "user" Json.Decoder.string
        locks.acquire service conn user now
      match step with
      | .ok t => (.ok (.bool true), { h with locks := some t })
      | .error e => (.error e, h)
    | "release", some locks =>
      match locks.release service conn with
      | .ok (b, t) => (.ok (.bool b), { h with locks := some t })
      | .error e => (.error e, h)
    | "islocked", some locks => ((fun l => Json.bool l.isSome) <$> locks.holder service, h)
    | method, locks =>
      if !hosted.operations.any (·.name == method) then
        (.error (.unknownObject s!"{service}.{method}"), h)
      else
        let admitted : Result Unit := match locks with
          | some t => t.enter service conn
          | none => .ok ()
        match admitted with
        | .error e => (.error e, h)
        | .ok () => h.runOperation conn service hosted method args

/-- A call to the host's own object. -/
def callDaemon (h : Host) (now : Timestamp) (call : Wire.Call) : Result Json × Host :=
  let args : Args := ⟨call.args⟩
  match call.method, h.locks with
  | "ping", _ =>
    (.ok (.object [("daemon", .string h.name),
      ("uptime_secs", Json.nat (h.startedAt.elapsedSeconds now)),
      ("lockable", .bool h.locks.isSome)]), h)
  | "services", _ =>
    (.ok (.array (h.services.map fun (name, hosted) => .object [("name", .string name),
      ("implementation", .string hosted.binding.implementation),
      ("instance_mode", .string (Spelled.name hosted.binding.instanceMode)),
      ("description", .string hosted.binding.description)])), h)
  | "locks", some t => (.ok (.object (t.slots.map fun (name, s) => (name, slotJson s))), h)
  | "force_release", some t =>
    let step : Result (Option Lock × LockTable) := do
      let service ← args.required 0 "service" Json.Decoder.string
      t.forceRelease service
    match step with
    | .ok (previous, t') => (.ok (.bool previous.isSome), { h with locks := some t' })
    | .error e => (.error e, h)
  | method, _ => (.error (.unknownObject s!"{daemonObject}.{method}"), h)

/-- Dispatches a call from connection `conn`. -/
def dispatch (h : Host) (conn : ConnectionId) (now : Timestamp) (call : Wire.Call) :
    Result Json × Host :=
  if call.object = daemonObject then h.callDaemon now call
  else h.callService conn now call.object call

/-- A connection went away: its locks are freed and its session instances dropped. -/
def disconnected (h : Host) (conn : ConnectionId) : Host :=
  let locks := h.locks.map fun t => (t.releaseAll conn).2
  { h with locks, sessions := h.sessions.filter (·.1 != conn) }

/-- Closes every live instance: session instances are dropped and made anew on later calls. -/
def close (h : Host) : Host := { h with sessions := [] }

end Host

end LabFleet.Daemon
