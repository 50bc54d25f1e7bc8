import LabFleet.Console.Config
import LabFleet.Console.Control
import LabFleet.Console.Wire
import LabFleet.Console.Processes
import LabFleet.Console.Logs
import LabFleet.Console.Settings
import LabFleet.Console.Lockfile
import LabFleet.Console.Supervisor
import LabFleet.Console.Daemon
import LabFleet.Console.Transport

/-!
The console's requests by name. A request is an object whose `op` names the area it
asks about; everything else in it is that area's to read. What the console cannot take from
the request itself comes from its surroundings: how the launchers requests describe start
programs, the time, the PID of the process the supervisor runs as, and where sockets are.
-/

namespace LabFleet.Console

/-- What the console takes from where it runs. -/
structure Surroundings where
  /-- Reads a launcher a request describes. -/
  launcherOf : Json → Except Json Supervisor.Launcher
  /-- The time daemons, directories, locks and log stamps see. -/
  now : Timestamp
  /-- The PID of the supervisor's own process. -/
  pid : Nat
  /-- The control socket a supervisor serves. -/
  supervisorSocket : String
  /-- The socket an object server listens on. -/
  serverSocket : String
  /-- The control socket a lockfile taken on its own names. -/
  lockSocket : String

/-- Answers one request. -/
def answer (env : Surroundings) (input : Json) : Json :=
  match str? input "op" with
  | some "error_kinds" => errorKinds
  | some "kinds" => kinds input
  | some "error" => errorReport input
  | some "config_load" => configLoad input
  | some "config_ops" => configOps input
  | some "processes" => processes env.launcherOf input
  | some "crash_policy" => crashPolicy input
  | some "log_buffer" => logBuffer input
  | some "settings" => settings input
  | some "control_frame" => controlFrame input
  | some "read_control" => readControl input
  | some "address" => address input
  | some "address_json" => addressJson input
  | some "connect_host" => connectHost input
  | some "write_frame" => writeFrame input
  | some "read_frame" => readFrame input
  | some "locks" => locks env.now input
  | some "daemon" => daemon env.now input
  | some "directory" => directory env.now input
  | some "registrations" => registrations input
  | some "transport" => transport env.now env.serverSocket input
  | some "supervisor" => supervisor env.launcherOf env.pid env.supervisorSocket input
  | some "log_export" => logExport input
  | some "log_stamp" => logStamp env.now input
  | some "lockfile" => lockfile env.pid env.now env.lockSocket input
  | some other => badInput s!"unknown op '{other}'"
  | none => badInput "missing op"

end LabFleet.Console
