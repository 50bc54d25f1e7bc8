import LabFleet.Console.Control
import LabFleet.Console.Config
import LabFleet.Supervisor.Registry

/-!
The console's view of the process registry on a modelled host.

A process world is a registry together with the processes started outside it, survivors of
an earlier supervisor. Its steps are the registry's operations and what an operator could do
to the host: kill a profile's process, start a survivor that left a PID file, write PID
files, or change the launcher.
-/

namespace LabFleet.Console

/-- The JSON form of a transition. -/
def transitionJson (t : Supervisor.Transition) : Json :=
  obj [("pid", optNat t.pid), ("changed", .bool t.changed), ("warnings", Json.strings t.warnings)]

/-- The JSON form of what a reload did. -/
def reloadJson (o : Supervisor.ReloadOutcome) : Json :=
  obj [("stopped", refsJson o.report.stopped), ("restarted", refsJson o.report.restarted),
    ("unchanged", refsJson o.report.unchanged), ("warnings", Json.strings o.warnings)]

/-- A registry on a modelled host, with the processes started outside it. -/
structure ProcessWorld where
  registry : Supervisor.Registry
  survivors : List Nat := []

/-- The profile a step names by kind and name. -/
def profileKey (step : Json) : Except Json Supervisor.ProfileKey := do
  return ⟨← profileKind step "kind", ← need step "name"⟩

open Supervisor in
/-- One step on a process world; `launcherOf` reads the launchers steps describe. -/
def processStep (launcherOf : Json → Except Json Launcher) (w : ProcessWorld) (step : Json) :
    ProcessWorld × Json :=
  let run {α : Type} (m : RegistryM α) : α × ProcessWorld :=
    let (a, r) := m.run w.registry
    (a, { w with registry := r })
  let attempt (r : Except Json (ProcessWorld × Json)) : ProcessWorld × Json :=
    match r with
    | .ok result => result
    | .error j => (w, j)
  attempt do
    match str? step "do" with
    | some "start" =>
      let key ← profileKey step
      let (r, w) := run (Registry.start key)
      return (w, resultJson (transitionJson <$> r))
    | some "stop" =>
      let key ← profileKey step
      let (r, w) := run (Registry.stop key)
      return (w, resultJson (transitionJson <$> r))
    | some "status" =>
      let target ← match get? step "kind" with
        | none => pure Control.StatusTarget.all
        | some _ => do
          let key ← profileKey step
          pure (Control.StatusTarget.one key.kind key.name)
      let (r, w) := run (Registry.status target)
      return (w, resultJson ((fun l => Json.array (l.map snapshotJson)) <$> r))
    | some "reload" =>
      let yaml ← need step "yaml"
      match (loaderOf step).load yaml with
      | .error e => return (w, errorJson e)
      | .ok next =>
        let (r, w) := run (Registry.reload next)
        return (w, resultJson (reloadJson <$> r))
    | some "note_rename" =>
      let kind ← profileKind step "kind"
      let old ← need step "old"
      let new ← need step "new"
      let ((), w) := run (Registry.noteRename kind old new)
      return (w, okJson .null)
    | some "autolaunch" =>
      let (failures, w) := run Registry.autolaunch
      return (w, okJson (Json.strings failures))
    | some "recover" =>
      let (n, w) := run Registry.recover
      return (w, okJson (Json.nat n))
    | some "stop_all" =>
      let ((), w) := run Registry.stopAll
      return (w, okJson .null)
    | some "logs" =>
      let key ← profileKey step
      let lines ← needNat step "lines"
      let (r, w) := run (Registry.logTail key lines)
      return (w, resultJson (Json.strings <$> r))
    | some "wait_logs" =>
      let key ← profileKey step
      let count ← needNat step "count"
      let (r, w) := run (Registry.logTail key count)
      let reached := match r with
        | .ok ls => decide (ls.length ≥ count)
        | .error _ => false
      return (w, okJson (.bool reached))
    | some "kill" =>
      let key ← profileKey step
      let host := w.registry.host
      match (host.contents? (PidRecord.fileName key.kind key.name)).bind PidRecord.ofText? with
      | none => return (w, okJson (.bool false))
      | some pr =>
        let (sent, host) := host.signal pr.pid .kill
        return ({ w with registry := { w.registry with host } }, okJson (.bool sent))
    | some "set_launcher" =>
      let launcher ← launcherOf step
      return ({ w with registry := { w.registry with launcher } }, okJson .null)
    | some "survivor" =>
      let key ← profileKey step
      let incarnation := ((nat? step "incarnation").getD 1).toUInt32
      let (pid, host) := w.registry.host.spawn false
      let record : PidRecord :=
        { kind := key.kind, name := key.name, pid, incarnation, startedAt := host.wallClock }
      let host := host.putFile (PidRecord.fileName key.kind key.name) record.toJson.write
      return ({ registry := { w.registry with host }, survivors := w.survivors ++ [pid] },
        okJson .null)
    | some "kill_survivors" =>
      let host := w.survivors.foldl (fun (h : Host) pid => ((h.signal pid .kill).2.collect pid).2)
        w.registry.host
      return ({ registry := { w.registry with host }, survivors := [] }, okJson (.bool true))
    | some "pid_file" =>
      let file ← need step "file"
      let text ← match get? step "raw", get? step "record" with
        | some (.string raw), _ => pure raw
        | _, some record => pure record.write
        | _, _ => throw (badInput "pid_file needs 'raw' or 'record'")
      let host := w.registry.host.putFile file text
      return ({ w with registry := { w.registry with host } }, okJson .null)
    | some "pid_files" =>
      return (w, okJson (Json.strings w.registry.host.fileNames))
    | some "adopt" =>
      let (n, w) := run Registry.adopt
      return (w, okJson (Json.nat n))
    | some "committed" =>
      let c := w.registry.config
      return (w, okJson (obj [("nameservers", Json.strings (c.names .nameserver)),
        ("daemons", Json.strings (c.names .daemon))]))
    | some other => throw (badInput s!"unknown process step '{other}'")
    | none => throw (missingField "do")

/-- Steps one after another on one world; before each, the pumps of the registry's processes
catch up. -/
def runProcessSteps (launcherOf : Json → Except Json Supervisor.Launcher) :
    ProcessWorld → List Json → List Json
  | _, [] => []
  | w, step :: rest =>
    let w := { w with registry := w.registry.catchUp }
    let (w, result) := processStep launcherOf w step
    result :: runProcessSteps launcherOf w rest

/-- A registry over a configuration, driven by steps; `launcherOf` reads launchers. -/
def processes (launcherOf : Json → Except Json Supervisor.Launcher) (input : Json) : Json :=
  unwrap do
  let yaml ← need input "yaml"
  let settings ← match get? input "settings" with
    | none | some .null => pure {}
    | some j => match Supervisor.Settings.ofJson j with
      | .ok s => pure s
      | .error m => throw (badInput ("settings: " ++ m))
  let launcher ← match get? input "launcher" with
    | some j => launcherOf j
    | none => launcherOf (obj [])
  let steps := listOf input "steps"
  match Config.Loader.load {} yaml with
  | .error e => return errorJson e
  | .ok config =>
    match Supervisor.Registry.create config settings launcher {} with
    | .error e => return errorJson e
    | .ok registry =>
      return obj [("steps", .array (runProcessSteps launcherOf { registry } steps))]

end LabFleet.Console
