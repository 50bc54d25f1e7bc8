import LabFleet.Supervisor.Host
import LabFleet.Supervisor.CrashPolicy
import LabFleet.Supervisor.LogBuffer
import LabFleet.Supervisor.Settings
import LabFleet.Config.Render
import LabFleet.Control.Message

/-!
The process registry: one record per subprocess the supervisor is responsible for, keyed by
profile kind and name, in key order (nameservers first, then by name).

A record's state is `starting` from its spawn until it has survived the startup window,
`running` after that, `crashed` when its process ended unasked or could not be spawned, and
`stopped` when the supervisor ended it or gave up on it. A record holds its process (a child
it spawned, or a survivor of an earlier supervisor known only by PID) exactly while it is
starting or running.

Every spawn of a profile gets the next incarnation of that profile from a 32-bit counter,
one more than the last spawned or adopted, wrapping to zero past the largest. The spawn leaves a
PID file in the run directory so that a later supervisor can adopt the process, and starts a
pump: a task of its own that copies the lines the process writes into the log buffer, each
tagged `[incarnation:pid]`, whenever it gets to run. An operator start waits out the startup window before it answers, and a reload waits
it out once after its spawns; spawns are only promoted once the monotonic clock shows the
window has passed, which a wait under a paused clock does not bring about.
-/

namespace LabFleet.Supervisor

open Config Control

/-- How long a fresh spawn must survive before it counts as running, in nanoseconds. -/
def startupWindow : Nat := 300000000

/-- Starting a program: the lines it writes and whether it ignores the polite signal, or why it
cannot be started. -/
def Program.launch : Program → Except String (List String × Bool)
  | .unavailable reason => .error reason
  | .idle output => .ok (output, false)
  | .stubborn output => .ok (output, true)

/-- A task copying the output of one spawned process into the log buffer. -/
structure Pump where
  key : ProfileKey
  incarnation : UInt32
  pid : Nat
  /-- The lines the process wrote that the pump has not copied yet. -/
  pending : List String
  deriving DecidableEq, Repr, Inhabited

/-- A line as the pump copies it: `[incarnation:pid] line`. -/
def Pump.tag (p : Pump) (line : String) : String :=
  "[" ++ toString p.incarnation ++ ":" ++ toString p.pid ++ "] " ++ line

/-- How a record holds its process. -/
inductive Handle where
  /-- A child the registry spawned. -/
  | spawned (pid : Nat)
  /-- A survivor of an earlier supervisor, known only by its PID. -/
  | adopted (pid : Nat)
  deriving DecidableEq, Repr, Inhabited

/-- The registry's record of one profile's subprocess. -/
structure Record where
  key : ProfileKey
  handle : Option Handle := none
  pid : Option Nat := none
  state : ProcessState := .stopped
  /-- Wall-clock time of the last spawn. -/
  startedAt : Option Timestamp := none
  /-- Monotonic time of the last spawn by this registry. -/
  started : Option Nat := none
  restarts : UInt32 := 0
  incarnation : UInt32 := 0
  lastError : Option String := none
  /-- Set when recovery gave up; cleared by an operator start. -/
  crashLooped : Bool := false
  /-- Monotonic instants of the crashes the crash policy still remembers. -/
  crashes : List Nat := []
  deriving DecidableEq, Repr, Inhabited

namespace Record

/-- A record of a profile that has never run. -/
def fresh (key : ProfileKey) : Record := { key }

/-- The record of an adopted survivor. -/
def ofPidRecord (r : PidRecord) : Record :=
  { key := ⟨r.kind, r.name⟩, handle := some (.adopted r.pid), pid := some r.pid,
    state := .running, startedAt := some r.startedAt, incarnation := r.incarnation }

/-- The record after its process ended unasked, for `reason`. -/
def crash (r : Record) (reason : String) : Record :=
  { r with handle := none, state := .crashed, lastError := some reason }

/-- Milliseconds since the epoch of an instant. -/
def millis (t : Timestamp) : Int := t.seconds * 1000 + ((t.nanos % 1000000000) / 1000000 : Nat)

/-- The view of a record at wall-clock time `now`; the PID and the uptime show only while
it runs. -/
def snapshot (r : Record) (now : Timestamp) : ProcessSnapshot :=
  let live := r.state.isRunning
  { kind := r.key.kind, name := r.key.name, state := r.state,
    pid := if live then r.pid else none,
    startedAtMs := r.startedAt.map millis,
    uptimeSecs := if live then r.startedAt.map (fun t => (now.seconds - t.seconds).toNat) else none,
    restarts := r.restarts.toNat, incarnation := r.incarnation.toNat, lastError := r.lastError,
    crashLooped := r.crashLooped,
    adopted := match r.handle with
      | some (.adopted _) => true
      | _ => false }

end Record

/-- A rename of a profile, noted for the next reload. -/
structure Rename where
  kind : ProfileKind
  old : String
  new : String
  deriving DecidableEq, Repr, Inhabited

/-- How the registry starts programs, and how it tells its own survivors from strangers. -/
structure Launcher where
  /-- The program run for a profile. -/
  program : ProfileKind → String → Program
  /-- Whether a live PID left by an earlier supervisor is this profile's subprocess. -/
  recognizes : Nat → ProfileKind → String → Bool

instance : Inhabited Launcher := ⟨⟨fun _ _ => .idle [], fun _ _ _ => false⟩⟩

/-- The outcome of a start or stop request. -/
structure Transition where
  pid : Option Nat := none
  /-- False when the profile already was as requested. -/
  changed : Bool := false
  warnings : List String := []
  deriving DecidableEq, Repr, Inhabited

/-- The outcome of a reload. -/
structure ReloadOutcome where
  report : ReloadReport := {}
  warnings : List String := []
  deriving DecidableEq, Repr, Inhabited

/-- The process registry and the machine it runs on. -/
structure Registry where
  /-- The committed configuration. -/
  config : LabConfig
  settings : Settings
  launcher : Launcher
  logs : LogBuffer
  host : Host
  /-- Records in key order. -/
  records : List Record := []
  /-- The last incarnation of each profile. -/
  incarnations : List (ProfileKey × UInt32) := []
  /-- Renames noted since the last reload, oldest first. -/
  renames : List Rename := []
  /-- The pumps of spawned processes, oldest first. -/
  pumps : List Pump := []
  deriving Inhabited

/-- A registry operation: it may change the registry and the machine. -/
abbrev RegistryM := StateM Registry

/-- Inserts or replaces a record, keeping key order. -/
def insertRecord (entry : Record) : List Record → List Record
  | [] => [entry]
  | x :: xs =>
    if x.key == entry.key then entry :: xs
    else if entry.key.lt x.key then entry :: x :: xs
    else x :: insertRecord entry xs

/-- Points every noted rename whose target is `old` at `new` instead; true if one was. -/
def retarget (kind : ProfileKind) (old new : String) : List Rename → Option (List Rename)
  | [] => none
  | n :: rest =>
    if n.kind == kind && n.new == old then some ({ n with new } :: rest)
    else (retarget kind old new rest).map (n :: ·)

namespace Registry

/-- The crash policy of the settings. -/
def policy (r : Registry) : CrashPolicy := CrashPolicy.ofSettings r.settings

/-- The record of a profile. -/
def find? (r : Registry) (key : ProfileKey) : Option Record := r.records.find? (·.key == key)

/-- Whether a profile's record counts as running. -/
def isLive (r : Registry) (key : ProfileKey) : Bool := (r.find? key).any (·.state.isRunning)

/-- Stores a record. -/
def put (entry : Record) : RegistryM Unit :=
  modify fun r => { r with records := insertRecord entry r.records }

/-- Removes a profile's record and returns it. -/
def take (key : ProfileKey) : RegistryM (Option Record) := do
  let r ← get
  set { r with records := r.records.filter (·.key != key) }
  return r.find? key

/-- Acts on the machine. -/
def onHost (f : Host → α × Host) : RegistryM α :=
  modifyGet fun r => let (a, h) := f r.host; (a, { r with host := h })

/-- Reads the monotonic clock. -/
def now : RegistryM Nat := onHost Host.tick

/-- Removes a profile's PID file. -/
def removePidFile (key : ProfileKey) : RegistryM Unit :=
  modify fun r => { r with host := r.host.dropFile (PidRecord.fileName key.kind key.name) }

/-- Commits a configuration: writes it as the runtime configuration and makes it current. -/
def commit (c : LabConfig) : RegistryM (Result Unit) := do
  let r ← get
  if r.host.writable then
    set { r with config := c, host := { r.host with runtimeConfig := some (c.render .merged) } }
    return .ok ()
  else return .error (.io "Permission denied (os error 13)")

/-- A registry with no records, committing `config`. -/
def create (config : LabConfig) (settings : Settings) (launcher : Launcher) (host : Host) :
    Result Registry :=
  let empty : Registry := { config := {}, settings, launcher, logs := LogBuffer.new settings.logLines, host }
  match (commit config).run empty with
  | (.ok (), r) => .ok r
  | (.error e, _) => .error e

/-- The end of a record's process since the last look, if it has ended; a child is collected. -/
def pollExit (entry : Record) : RegistryM (Option String) :=
  match entry.handle with
  | none => pure none
  | some (.spawned pid) => do
    let exit ← onHost (·.collect pid)
    return exit.map fun e => "exited with " ++ e.text
  | some (.adopted pid) => do
    return if (← get).host.isRunning pid then none else some "adopted process exited"

/-- The record after a look at its process: crashed if the process ended. -/
def checked (entry : Record) : RegistryM Record := do
  match ← pollExit entry with
  | some reason => return entry.crash reason
  | none => return entry

/-- Brings every record up to date: ended processes make their records crashed, and spawns
that have survived the startup window run. -/
def reap : RegistryM Unit := do
  let mut out : List Record := []
  for entry in (← get).records do
    match ← pollExit entry with
    | some reason => out := out ++ [entry.crash reason]
    | none =>
      if entry.state == .starting then
        match entry.started with
        | some t =>
          let n ← now
          out := out ++ [if n - t ≥ startupWindow then { entry with state := .running } else entry]
        | none => out := out ++ [entry]
      else out := out ++ [entry]
  modify fun r => { r with records := out }

/-- The next incarnation of a profile. -/
def nextIncarnation (key : ProfileKey) : RegistryM UInt32 :=
  modifyGet fun r =>
    let n := ((r.incarnations.find? (·.1 == key)).map (·.2)).getD 0 + 1
    (n, { r with incarnations := (key, n) :: r.incarnations.filter (·.1 != key) })

/-- Raises a profile's incarnation counter to at least `n`. -/
def raiseIncarnation (key : ProfileKey) (n : UInt32) : RegistryM Unit :=
  modify fun r =>
    let m := max n (((r.incarnations.find? (·.1 == key)).map (·.2)).getD 0)
    { r with incarnations := (key, m) :: r.incarnations.filter (·.1 != key) }

/-- Spawns the subprocess of a record, leaving it starting: the updated record, and the
failure if the program could not be started (the record is then crashed). -/
def spawn (entry : Record) : RegistryM (Record × Option Error) := do
  let key := entry.key
  let incarnation ← nextIncarnation key
  let r ← get
  match (r.launcher.program key.kind key.name).launch with
  | .error reason =>
    let why := "failed to spawn: " ++ reason
    return ({ entry.crash why with pid := none },
      some (.internal (key.kind.name ++ " '" ++ key.name ++ "' " ++ why)))
  | .ok (output, ignoresTerm) =>
    let (pid, host) := r.host.spawn ignoresTerm
    let startedAt := host.wallClock
    let (started, host) := host.tick
    let pidRecord : PidRecord := { kind := key.kind, name := key.name, pid, incarnation, startedAt }
    let host := host.putFile (PidRecord.fileName key.kind key.name) pidRecord.toJson.write
    let host := host.note (.spawned key.kind key.name pid)
    let pump : Pump := ⟨key, incarnation, pid, output⟩
    set { r with host, pumps := r.pumps ++ [pump] }
    let entry := { entry with
      handle := some (.spawned pid), pid := some pid, state := .starting,
      startedAt := some startedAt, started := some started, incarnation, lastError := none }
    return (entry, none)

/-- The `i`-th pump copies the next line its process wrote into the log buffer; a pump with
nothing left to copy ends. -/
def pumpLine (r : Registry) (i : Nat) : Registry :=
  match r.pumps[i]? with
  | none => r
  | some p =>
    match p.pending with
    | [] => { r with pumps := r.pumps.eraseIdx i }
    | line :: rest =>
      { r with logs := r.logs.push p.key (p.tag line), pumps := r.pumps.set i { p with pending := rest } }

theorem pumpLine_frame (r : Registry) (i : Nat) :
    r.pumpLine i = { r with logs := (r.pumpLine i).logs, pumps := (r.pumpLine i).pumps } := by
  unfold pumpLine
  split
  · rfl
  · split <;> rfl

@[simp] theorem records_pumpLine (r : Registry) (i : Nat) : (r.pumpLine i).records = r.records := by
  rw [pumpLine_frame]

@[simp] theorem host_pumpLine (r : Registry) (i : Nat) : (r.pumpLine i).host = r.host := by
  rw [pumpLine_frame]

/-- Every pump copies all it has left, oldest pump first, and ends. -/
def catchUp (r : Registry) : Registry :=
  let logs := r.pumps.foldl (fun b p => p.pending.foldl (fun b line => b.push p.key (p.tag line)) b)
    r.logs
  { r with pumps := [], logs }

/-- Records in the machine's journal that ending a record's process begins. -/
def noteTermination (entry : Record) (pid : Nat) : RegistryM Unit :=
  onHost fun h => ((), h.note (.terminated entry.key.kind entry.key.name pid))

/-- Ends a record's process: the polite signal, then, for a process still there after the grace
period, the forced one. -/
def terminate (entry : Record) : RegistryM Unit :=
  match entry.handle with
  | none => pure ()
  | some (.spawned pid) => do
    noteTermination entry pid
    modify fun r => { r with host := r.host.stopChild pid r.settings.stopGrace }
  | some (.adopted pid) => do
    noteTermination entry pid
    modify fun r => { r with host := r.host.stopSurvivor pid r.settings.stopGrace }

/-- Warnings for the nameservers a daemon depends on that do not run. -/
def missingNameservers (r : Registry) (key : ProfileKey) : List String :=
  match key.kind with
  | .nameserver => []
  | .daemon =>
    (r.config.daemonDependencies key.name).filter (fun ns => !r.isLive ⟨.nameserver, ns⟩)
      |>.map fun ns =>
        "daemon '" ++ key.name ++ "' depends on nameserver '" ++ ns ++ "', which is not running"

/-- Starts a configured profile and waits out the startup window. A profile already running
is left alone; starting clears the crash-loop flag and the crash history. -/
def start (key : ProfileKey) : RegistryM (Result Transition) := do
  let r ← get
  if !r.config.contains key.kind key.name then
    return .error (.unknownProfile key.kind key.name)
  let warnings := missingNameservers r key
  let entry ← checked ((r.find? key).getD (Record.fresh key))
  if entry.state.isRunning then
    put entry
    return .ok { pid := entry.pid, changed := false, warnings }
  let (entry, failure) ← spawn { entry with crashLooped := false, crashes := [] }
  put entry
  match failure with
  | some e => return .error e
  | none =>
    modify fun r => { r with host := r.host.sleep startupWindow }
    match ← pollExit entry with
    | some reason =>
      put (entry.crash reason)
      let kind := key.kind.name
      return .error (.internal (kind ++ " '" ++ key.name ++ "' " ++ reason ++
        " during startup; see \x60lab logs " ++ kind ++ " " ++ key.name ++ "\x60"))
    | none =>
      let entry := if entry.state == .starting then { entry with state := .running } else entry
      put entry
      return .ok { pid := entry.pid, changed := true, warnings }

/-- Stops a profile: its record goes, its process ends and its PID file is removed. Stopping
a nameserver warns about each running daemon that depends on it. -/
def stop (key : ProfileKey) : RegistryM (Result Transition) := do
  let config := (← get).config
  match ← take key with
  | none =>
    if config.contains key.kind key.name then return .ok {}
    else return .error (.unknownProfile key.kind key.name)
  | some entry =>
    terminate entry
    removePidFile key
    let mut warnings : List String := []
    if key.kind == .nameserver then
      for daemon in config.nameserverDependents key.name do
        if (← get).isLive ⟨.daemon, daemon⟩ then
          warnings := warnings ++ ["daemon '" ++ daemon ++ "' is still running and depends on nameserver '" ++ key.name ++ "'"]
    return .ok { pid := entry.pid, changed := entry.handle.isSome, warnings }

/-- Snapshots of every configured profile and every other record, nameservers first; or of
one profile, configured or recorded. -/
def status (target : StatusTarget) : RegistryM (Result (List ProcessSnapshot)) := do
  reap
  let r ← get
  let wall := r.host.wallClock
  let snap (key : ProfileKey) : ProcessSnapshot :=
    match r.find? key with
    | some entry => entry.snapshot wall
    | none => ProcessSnapshot.idle key.kind key.name
  match target with
  | .all =>
    let configured := [ProfileKind.nameserver, .daemon].flatMap fun kind =>
      (r.config.names kind).map fun name => snap ⟨kind, name⟩
    let others := (r.records.filter fun entry => !r.config.contains entry.key.kind entry.key.name).map
      (·.snapshot wall)
    let all := configured ++ others
    return .ok (all.filter (·.kind == .nameserver) ++ all.filter (·.kind == .daemon))
  | .one kind name =>
    if !r.config.contains kind name && (r.find? ⟨kind, name⟩).isNone then
      return .error (.unknownProfile kind name)
    return .ok [snap ⟨kind, name⟩]

/-- Notes a rename made in the user configuration; the running process moves to its new name
at the next reload. A rename of a name that an earlier rename produced extends that one. -/
def noteRename (kind : ProfileKind) (old new : String) : RegistryM Unit :=
  modify fun r =>
    match retarget kind old new r.renames with
    | some renames => { r with renames }
    | none => { r with renames := r.renames ++ [⟨kind, old, new⟩] }

/-- Reconciles the running subprocesses with a new configuration. A record renamed to a name
the new configuration has moves there, respawned if it was running; a record whose profile is
gone is stopped; a running record whose fingerprint changed is respawned; every other record
keeps its process. Daemons stop before nameservers, and nameservers spawn before daemons. -/
def reload (next : LabConfig) : RegistryM (Result ReloadOutcome) := do
  let previous := (← get).config
  let renames := (← get).renames
  modify fun r => { r with renames := [] }
  match ← commit next with
  | .error e => return .error e
  | .ok () =>
  reap
  let mut report : ReloadReport := {}
  let mut toStop : List ProfileKey := []
  let mut toSpawn : List (ProfileKey × ProfileKey) := []
  for entry in (← get).records do
    let key := entry.key
    let live := entry.state.isRunning
    let renamedTo := ((renames.find? fun n => n.kind == key.kind && n.old == key.name).map
      (·.new)).filter (next.contains key.kind)
    match renamedTo with
    | some new =>
      toStop := toStop ++ [key]
      if live then toSpawn := toSpawn ++ [(key, ⟨key.kind, new⟩)]
    | none =>
      if !next.contains key.kind key.name then
        toStop := toStop ++ [key]
        if live then report := { report with stopped := report.stopped ++ [⟨key.kind, key.name⟩] }
      else if previous.fingerprint key.kind key.name != next.fingerprint key.kind key.name then
        if live then
          toStop := toStop ++ [key]
          toSpawn := toSpawn ++ [(key, key)]
      else if live then
        report := { report with unchanged := report.unchanged ++ [⟨key.kind, key.name⟩] }
  let stopOrder := toStop.filter (·.kind == .daemon) ++ toStop.filter (·.kind == .nameserver)
  for key in stopOrder do
    match ← take key with
    | some entry =>
      terminate entry
      removePidFile key
    | none => pure ()
  let spawnOrder := toSpawn.filter (·.2.kind == .nameserver) ++ toSpawn.filter (·.2.kind == .daemon)
  let mut warnings : List String := []
  for (old, new) in spawnOrder do
    if old != new then
      modify fun r => { r with logs := r.logs.rename old.kind old.name new.name }
    let existing := (← get).find? new
    let (entry, failure) ← spawn (existing.getD (Record.fresh new))
    put entry
    match failure with
    | none => report := { report with restarted := report.restarted ++ [⟨new.kind, new.name⟩] }
    | some e => warnings := warnings ++ [e.message]
  if !spawnOrder.isEmpty then
    modify fun r => { r with host := r.host.sleep startupWindow }
    reap
    for (_, new) in spawnOrder do
      if ((← get).find? new).any (·.state == .crashed) then
        let kind := new.kind.name
        warnings := warnings ++ [kind ++ " '" ++ new.name ++ "' exited right after restart; see \x60lab logs " ++
          kind ++ " " ++ new.name ++ "\x60"]
  return .ok { report, warnings }

/-- Starts every autolaunch profile, nameservers first, each in listed order; one message per
profile that failed to start. -/
def autolaunch : RegistryM (List String) := do
  let config := (← get).config
  let mut failures : List String := []
  for (kind, names) in [(ProfileKind.nameserver, config.autolaunch.nameservers),
      (.daemon, config.autolaunch.daemons)] do
    for name in names do
      match ← start ⟨kind, name⟩ with
      | .error e => failures := failures ++ [kind.name ++ " '" ++ name ++ "': " ++ e.message]
      | .ok _ => pure ()
  return failures

/-- Takes over the subprocesses a previous supervisor left running, as their PID files in the
run directory describe them. A file that holds no record, or describes a process that is gone,
not recognized, not configured or already recorded, is removed. Returns how many were adopted. -/
def adopt : RegistryM Nat := do
  match (← get).host.runDir with
  | none => return 0
  | some files =>
    let mut adopted := 0
    for (file, text) in files do
      if !hasExtension file "pid" then continue
      match PidRecord.ofText? text with
      | none => modify fun r => { r with host := r.host.dropFile file }
      | some pr =>
        let r ← get
        let key : ProfileKey := ⟨pr.kind, pr.name⟩
        let alive := r.host.isRunning pr.pid && r.launcher.recognizes pr.pid pr.kind pr.name
        if !alive || !r.config.contains key.kind key.name || (r.find? key).isSome then
          modify fun r => { r with host := r.host.dropFile file }
        else
          raiseIncarnation key pr.incarnation
          put (Record.ofPidRecord pr)
          adopted := adopted + 1
    return adopted

/-- One recovery pass: crashed records of configured profiles are respawned under the crash
policy, and those of profiles no longer configured are dropped. Returns how many were
respawned. -/
def recover : RegistryM Nat := do
  let config := (← get).config
  reap
  let crashed := ((← get).records.filter (·.state == .crashed)).map (·.key)
  let instant ← now
  let mut restarted := 0
  for key in crashed do
    if !config.contains key.kind key.name then
      let _ ← take key
      continue
    match (← get).find? key with
    | none => continue
    | some entry =>
      let policy := (← get).policy
      let (verdict, crashes) := policy.record entry.crashes instant
      let entry := { entry with crashes }
      match verdict with
      | .restart =>
        let (entry, failure) ← spawn { entry with restarts := entry.restarts + 1 }
        put entry
        if failure.isNone then restarted := restarted + 1
      | .giveUp n =>
        let reason := (Error.crashLoop key.kind key.name n policy.windowSecs).message
        put { entry with state := .stopped, crashLooped := true, lastError := some reason }
        removePidFile key
  return restarted

/-- Stops everything, daemons before nameservers. -/
def stopAll : RegistryM Unit := do
  let records := (← get).records
  modify fun r => { r with records := [] }
  for entry in records.filter (·.key.kind == .daemon) ++ records.filter (·.key.kind == .nameserver) do
    terminate entry
    removePidFile entry.key

/-- The last `lines` captured lines of a configured or recorded profile. -/
def logTail (key : ProfileKey) (lines : Nat) : RegistryM (Result (List String)) := do
  let r ← get
  if !(r.config.contains key.kind key.name || (r.find? key).isSome) then
    return .error (.unknownProfile key.kind key.name)
  return .ok (r.logs.tail key lines)

end Registry

end LabFleet.Supervisor
