import LabFleet.Console.Control
import LabFleet.Supervisor.Server

/-!
The console's view of a whole supervisor: started over the operator's configuration,
served, driven through its control socket and by what an operator does to its files, and
shut down at the end.
-/

namespace LabFleet.Console

/-- A control response as a client shows it; of a pong only the version is kept. -/
def responseJson (r : Control.Response) : Json :=
  match r.payload with
  | .pong _ version _ =>
    match decodedJson r with
    | .object fields => .object (fields.map fun (k, v) =>
        if k == "payload" then (k, obj [("type", .string "pong"), ("version", .string version)])
        else (k, v))
    | j => j
  | _ => decodedJson r

/-- The failure of a client whose supervisor is not there. -/
def unavailable (socket : String) : Error :=
  .supervisorUnavailable (socket ++ ": No such file or directory (os error 2)")

open Supervisor in
/-- One step on a supervisor: a control request, or an operator's action on its files; a
shutdown is followed by whether serving ended. -/
def supervisorStep (launcherOf : Json → Except Json Launcher) (s : Server) (step : Json) :
    Except Json (List Json × Server) := do
  match get? step "request", str? step "do" with
  | some r, _ =>
    let request ← requestOf r
    if !s.serving then return ([errorJson (unavailable s.options.socket)], s)
    let (response, s) := s.handle request
    let answer := obj [("response", responseJson response)]
    if request == .shutdown then return ([answer, obj [("stopped", .bool !s.serving)]], s)
    return ([answer], s)
  | none, some "write_config" =>
    let yaml ← need step "yaml"
    return ([okJson .null], { s with userConfig := some yaml })
  | none, some "remove_config" =>
    return ([okJson (.bool s.userConfig.isSome)], { s with userConfig := none })
  | none, some "read_config" => return ([okJson (optStr s.userConfig)], s)
  | none, some "runtime_config" =>
    return ([okJson (.string (s.registry.config.render .merged))], s)
  | none, some "lockfile" => return ([okJson (.bool s.holdsLock)], s)
  | none, some "set_launcher" =>
    let launcher ← launcherOf step
    return ([okJson .null], { s with registry := { s.registry with launcher } })
  | none, some other => throw (badInput s!"unknown supervisor step '{other}'")
  | none, none => throw (missingField "do")

/-- Steps one after another on one supervisor; before each, the pumps of its processes catch
up. -/
def supervisorSteps (launcherOf : Json → Except Json Supervisor.Launcher) :
    Supervisor.Server → List Json → List Json × Supervisor.Server
  | s, [] => ([], s)
  | s, step :: rest =>
    let s := { s with registry := s.registry.catchUp }
    let (out, s) := match supervisorStep launcherOf s step with
      | .ok result => result
      | .error j => ([j], s)
    let (more, s) := supervisorSteps launcherOf s rest
    (out ++ more, s)

/-- A supervisor with PID `pid` on a host whose timers run in real time, controlled
through `socket`: started over the operator's configuration, served, driven by steps and
shut down; then whether its socket and lockfile are gone. -/
def supervisor (launcherOf : Json → Except Json Supervisor.Launcher) (pid : Nat) (socket : String)
    (input : Json) : Json := unwrap do
  let settings ← match get? input "settings" with
    | none | some .null => pure {}
    | some j => match Supervisor.Settings.ofJson j with
      | .ok s => pure s
      | .error m => throw (badInput ("settings: " ++ m))
  let launcher ← launcherOf ((get? input "launcher").getD (obj [("mode", .string "missing")]))
  let opts : Supervisor.Options :=
    { settings, force := (bool? input "force").getD false, socket, pid }
  match Supervisor.Server.start opts launcher { realTime := true } (str? input "config") [] with
  | .error e => return errorJson e
  | .ok s =>
    let (steps, s) := supervisorSteps launcherOf s.serve (listOf input "steps")
    let s := if s.serving then s.shutDown else s
    return obj [("steps", .array steps),
      ("after", obj [("socket_removed", .bool !s.serving),
        ("lockfile_removed", .bool !(s.lockDir.contains Supervisor.Lockfile.fileName))])]

end LabFleet.Console
