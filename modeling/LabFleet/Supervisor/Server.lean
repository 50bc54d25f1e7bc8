import LabFleet.Supervisor.Registry
import LabFleet.Supervisor.Lockfile
import LabFleet.Config.Load
import LabFleet.Config.Render

/-!
The supervisor as a whole: the lockfile that makes it the only one on its host, the
operator's configuration file, the process registry, and the control socket that answers
requests.

Starting takes the lockfile, loads the operator's configuration (the built-in profiles when
there is no file), adopts the survivors of an earlier supervisor and starts the autolaunch
profiles. Serving binds the control socket, and the health manager makes its first recovery
pass at once. A shutdown request is answered, then every subprocess is stopped, the socket is
removed and the lockfile released.

Renames edit the operator's file only: the file is written anew with the entries that differ
from the built-in profiles, and the registry notes the rename so that a running process moves
to its new name at the next reload, which reads the file again.
-/

namespace LabFleet.Supervisor

open Config Control

/-- The version a supervisor reports. -/
def version : String := "0.3.0"

/-- What a supervisor is started with. -/
structure Options where
  settings : Settings := {}
  /-- Take over a lockfile held by a live process. -/
  force : Bool := false
  /-- The path of the control socket. -/
  socket : String
  /-- The PID of the supervisor's own process. -/
  pid : Nat

/-- A started supervisor. -/
structure Server where
  options : Options
  loader : Loader
  registry : Registry
  /-- The text of the operator's configuration file, if there is one. -/
  userConfig : Option String
  /-- The directory of the lockfile. -/
  lockDir : LockDir
  /-- Whether the control socket is bound and answering. -/
  serving : Bool := false
  /-- The monotonic time the supervisor was ready. -/
  startedAt : Nat

/-- The operator's configuration; no file gives the built-in profiles. -/
def loadUserConfig (loader : Loader) : Option String → Result LabConfig
  | some text => loader.load text
  | none => .ok {}

/-- The text after a message that names a PID, if there is one. -/
def pidSuffix : Option Nat → String
  | some pid => s!" (PID {pid})"
  | none => ""

namespace Server

/-- Whether a PID names a live process, the supervisor's own included. -/
def isLive (opts : Options) (host : Host) (pid : Nat) : Bool := pid == opts.pid || host.isRunning pid

/-- Starts a supervisor over a host, with the operator's file and the lockfile's directory as
they are found. -/
def start (opts : Options) (launcher : Launcher) (host : Host) (userConfig : Option String)
    (lockDir : LockDir) : Result Server := do
  let (taken, lockDir) :=
    Lockfile.acquire lockDir opts.pid host.wallClock opts.socket opts.force (isLive opts host)
  let _ ← taken
  let loader : Loader := { strict := opts.settings.strictConfig }
  let config ← loadUserConfig loader userConfig
  let registry ← Registry.create config opts.settings launcher host
  let (_, registry) := Registry.adopt.run registry
  let (_, registry) := Registry.autolaunch.run registry
  let (startedAt, host) := registry.host.tick
  return { options := opts, loader, registry := { registry with host }, userConfig, lockDir,
           startedAt }

/-- Runs a registry operation. -/
def onRegistry (s : Server) (m : RegistryM α) : α × Server :=
  let (a, registry) := m.run s.registry
  (a, { s with registry })

/-- Binds the control socket; the health manager's first recovery pass runs at once. -/
def serve (s : Server) : Server :=
  let (_, s) := s.onRegistry Registry.recover
  { s with serving := true }

/-- Stops serving: every subprocess is stopped, the socket removed and the lockfile released. -/
def shutDown (s : Server) : Server :=
  let (_, s) := s.onRegistry Registry.stopAll
  { s with serving := false, lockDir := Lockfile.release s.lockDir s.options.pid }

/-- The answer to a rename: the new text of the operator's file, or the failure. -/
def renamed (s : Server) (edit : LabConfig → Result LabConfig) : Result String := do
  let config ← edit (← loadUserConfig s.loader s.userConfig)
  config.validate s.loader.catalog
  return config.render .diff

/-- Answers one control request. -/
def handle (s : Server) : Request → Response × Server
  | .ping =>
    let (now, s) := s.onRegistry Registry.now
    ({ Response.success "pong" with
       payload := .pong ((now - s.startedAt) / 1000000000) version s.options.pid }, s)
  | .shutdown => (Response.success "Supervisor shutting down", s.shutDown)
  | .start kind name =>
    let (r, s) := s.onRegistry (Registry.start ⟨kind, name⟩)
    let k := kind.name
    match r with
    | .ok t =>
      let message := if t.changed then s!"Started {k} '{name}'" ++ pidSuffix t.pid
        else s!"{k} '{name}' is already running" ++ pidSuffix t.pid
      ({ Response.success message with warnings := t.warnings }, s)
    | .error e => (Response.failure e, s)
  | .stop kind name =>
    let (r, s) := s.onRegistry (Registry.stop ⟨kind, name⟩)
    let k := kind.name
    match r with
    | .ok t =>
      let message := if t.changed then s!"Stopped {k} '{name}'" ++ pidSuffix t.pid
        else s!"{k} '{name}' is not running"
      ({ Response.success message with warnings := t.warnings }, s)
    | .error e => (Response.failure e, s)
  | .status target =>
    let (r, s) := s.onRegistry (Registry.status target)
    match r with
    | .ok records =>
      ({ Response.success s!"{records.length} profile(s)" with payload := .records records }, s)
    | .error e => (Response.failure e, s)
  | .reload =>
    match loadUserConfig s.loader s.userConfig with
    | .error e => (Response.failure e, s)
    | .ok config =>
      let (r, s) := s.onRegistry (Registry.reload config)
      match r with
      | .ok o =>
        let restarted := o.report.restarted.length
        let stopped := o.report.stopped.length
        let unchanged := o.report.unchanged.length
        ({ Response.success s!"Reloaded: {restarted} restarted, {stopped} stopped, {unchanged} unchanged" with
           warnings := o.warnings, payload := .reload o.report }, s)
      | .error e => (Response.failure e, s)
  | .rename kind old new =>
    match s.renamed (·.rename kind old new) with
    | .ok text =>
      let (_, s) := s.onRegistry (Registry.noteRename kind old new)
      let k := kind.name
      (Response.success (s!"Renamed {k} '{old}' to '{new}'; " ++
        "a running process moves to the new name at the next reload"),
        { s with userConfig := some text })
    | .error e => (Response.failure e, s)
  | .renameService old new =>
    match s.renamed (·.renameService old new) with
    | .ok text =>
      (Response.success (s!"Renamed service '{old}' to '{new}'; " ++
        "its daemon picks up the new name at the next reload"), { s with userConfig := some text })
    | .error e => (Response.failure e, s)
  | .logs kind name lines =>
    let (r, s) := s.onRegistry (Registry.logTail ⟨kind, name⟩ lines)
    match r with
    | .ok ls => ({ Response.success s!"{ls.length} line(s)" with payload := .logs ls }, s)
    | .error e => (Response.failure e, s)

/-- Whether the live holder of the lockfile is this supervisor. -/
def holdsLock (s : Server) : Bool :=
  match Lockfile.holder s.lockDir (isLive s.options s.registry.host) with
  | some info => info.pid == s.options.pid
  | none => false

end Server

end LabFleet.Supervisor
